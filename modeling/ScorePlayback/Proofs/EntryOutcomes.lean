import Mathlib.Data.List.Forall2
import ScorePlayback.Proofs.Complaints
import ScorePlayback.Proofs.TieReading

/-! What comes of reading an entry of a document. It is read as an item of the kind that its type
names, or it is malformed, or it has one of three shapes that stop the reading in a way of their
own, or a limit is met: the entry does not fit, or the complaint about the end of a tie shows a note
that cannot be written. -/

namespace ScorePlayback.Document

/-- A note as a value describes it, and its grace notes as the values among its fields do. -/
inductive NoteOf : Value → Note → Prop
  | described {fields : Fields} {note : Note} {pitch : LooseText} {grace : List Value}
      (pitched : field fields "pitch" (.string "C") = .string pitch)
      (letter : (Text.upper pitch).string? = some note.letter.name)
      (checked : noteFields fields =
        .ok ⟨note.octave, note.accidental, note.duration, note.isRest, note.transposition⟩)
      (listed : (field fields "grace" (.array [])).parts? = some grace)
      (graced : List.Forall₂ NoteOf grace note.grace) : NoteOf (.object fields) note

/-- An item of the kind that the type of its entry names, read from the fields of the entry. -/
inductive ItemOf : Value → Item → Prop
  | note {fields : Fields} {note : Note}
      (type : field fields "type" .null = .string (if note.isRest then "rest" else "note"))
      (read : NoteOf (.object fields) note) : ItemOf (.object fields) (.note note)
  | chord {fields : Fields} {notes : List Note} {first : Value} {rest : List Value}
      (type : field fields "type" .null = .string "chord")
      (listed : field fields "notes" .null = .array (first :: rest))
      (read : List.Forall₂ NoteOf (first :: rest) notes) : ItemOf (.object fields) (.chord ⟨notes⟩)
  | bar {fields : Fields} {line : BarLine} (type : field fields "type" .null = .string "bar")
      (read : barLine fields = .ok line) : ItemOf (.object fields) (.bar (.line line))
  | ending {room : Nat} {fields : Fields} {numbered : Ending}
      (type : field fields "type" .null = .string "ending")
      (read : Document.ending room fields = .ok numbered) :
      ItemOf (.object fields) (.bar (.ending numbered))
  | key {fields : Fields} {declared : KeySignature}
      (type : field fields "type" .null = .string "key")
      (read : Document.key fields = .ok declared) : ItemOf (.object fields) (.key declared)
  | tempo {room : Nat} {fields : Fields} {marked : Tempo}
      (type : field fields "type" .null = .string "tempo")
      (read : Document.tempo room fields = .ok marked) : ItemOf (.object fields) (.tempo marked)

/-- A number that is not zero, or the truth value that is. -/
def IsTruthyNumber : Value → Prop
  | .bool flag => flag = true
  | .int number => number ≠ 0
  | .float number => number.isZero = false
  | _ => False

/-- The whole number that a value is converted to. -/
def wholePart? : Value → Option Int
  | .int number => some number
  | .bool flag => some (if flag then 1 else 0)
  | .float number => number.truncate.toOption
  | .string text => (Numeral.ofText text).toOption
  | _ => none

/-- The first value that is not converted is an infinite number. -/
def StopsAtInfinity (values : List Value) : Prop :=
  ∃ before negative after, values = before ++ .float (.infinite negative) :: after ∧
    ∀ value ∈ before, (wholePart? value).isSome

/-- The shapes of an entry that stop the reading in a way of their own. -/
inductive Escapes : Value → LoadError → Prop
  | chord {fields : Fields} (type : field fields "type" .null = .string "chord")
      (number : IsTruthyNumber (field fields "notes" .null)) :
      Escapes (.object fields) (.chordNotes (field fields "notes" .null))
  | ending {fields : Fields} {values : List Value}
      (type : field fields "type" .null = .string "ending")
      (listed : field fields "numbers" (.array [.int 1]) = .array values)
      (stops : StopsAtInfinity values) : Escapes (.object fields) .infinitePass
  | tempo {fields : Fields} {number : Int} (type : field fields "type" .null = .string "tempo")
      (given : field? fields "value" = some (.int number))
      (large : (Binary64.ofInt number).isInfinite = true) : Escapes (.object fields) .tempoTooLarge

/-- A note that ends a tie which none of the notes before it awaits. -/
structure Unawaited (room : Nat) (ties : Ties) (past : List Note) (value : Value) (note : Note) :
    Prop where
  read : ∃ after, readNote room ties true value = .ok (note, after)
  ends : ∃ said, marking value = some said ∧ said.mark.ends = true
  unawaited : awaiting? past note.place = none

/-- The first value that is not read is of such a note. -/
def UnawaitedIn (room : Nat) (ties : Ties) (past : List Note) (values : List Value)
    (note : Note) : Prop :=
  ∃ before value after notes next, values = before ++ value :: after ∧
    readNotes room ties false before = .ok (notes, next) ∧
    Unawaited room next (past ++ notes) value note

/-- The entry of such a note, or of a chord with one. -/
inductive Refused (room : Nat) (ties : Ties) (past : List Note) : Value → Note → Prop
  | note {fields : Fields} {name : LooseText} {note : Note}
      (type : field fields "type" .null = .string name) (single : name = "note" ∨ name = "rest")
      (unawaited : Unawaited room ties past (.object fields) note) :
      Refused room ties past (.object fields) note
  | chord {fields : Fields} {inside : Nat} {values : List Value} {note : Note}
      (type : field fields "type" .null = .string "chord") (entered : enter room = .ok inside)
      (listed : field fields "notes" .null = .array values)
      (unawaited : UnawaitedIn inside ties past values note) :
      Refused room ties past (.object fields) note

/-- A limit that is met because a value does not fit. -/
def Exceeds (room : Nat) (value : Value) (error : LoadError) : Prop :=
  ¬ value.Fits room ∧ ∃ limit, error = .limit limit

/-- How an entry stops the reading if it is not malformed. -/
inductive Stops (room : Nat) (ties : Ties) (past : List Note) (value : Value) : LoadError → Prop
  | escapes {error : LoadError} (escape : Escapes value error) : Stops room ties past value error
  | exceeds {error : LoadError} (unfit : Exceeds room value error) :
      Stops room ties past value error
  | refused {note : Note} (refused : Refused room ties past value note)
      (overlong : note.isWritable = false) : Stops room ties past value (.limit .digitsWritten)

/-! Readings -/

/-- What comes of a reading: a value that fits, a malformed document or an error that escapes. -/
inductive Settles (fits : α → Prop) (escapes : LoadError → Prop) : Except LoadError α → Prop
  | read {value : α} (fit : fits value) : Settles fits escapes (.ok value)
  | malformed (cause : FormatError) : Settles fits escapes (.error (.malformed cause))
  | escaped {error : LoadError} (escape : escapes error) : Settles fits escapes (.error error)

namespace Settles
variable {fits : α → Prop} {more : β → Prop} {escapes : LoadError → Prop}

theorem bind {first : Except LoadError α} {next : α → Except LoadError β}
    (start : Settles fits escapes first)
    (rest : ∀ value, fits value → Settles more escapes (next value)) :
    Settles more escapes (first >>= next) := by
  cases start with
  | read fit => exact rest _ fit
  | malformed cause => exact .malformed cause
  | escaped escape => exact .escaped escape

/-- What is read is what the reading returns. -/
theorem exact {result : Except LoadError α} (settles : Settles fits escapes result) :
    Settles (fun value => fits value ∧ result = .ok value) escapes result := by
  cases settles with
  | read fit => exact .read ⟨fit, rfl⟩
  | malformed cause => exact .malformed cause
  | escaped escape => exact .escaped escape

theorem mono {wide : α → Prop} {wider : LoadError → Prop} {result : Except LoadError α}
    (settles : Settles fits escapes result) (fit : ∀ value, fits value → wide value)
    (escape : ∀ error, escapes error → wider error) : Settles wide wider result := by
  cases settles with
  | read inside => exact .read (fit _ inside)
  | malformed cause => exact .malformed cause
  | escaped out => exact .escaped (escape _ out)

end Settles

theorem Complains.settles {room : Nat} {value : Value} {result : Except FormatError α}
    (complains : Complains room value result) :
    Settles (fun read => result = .ok read) (Exceeds room value) (raising room result) := by
  cases result with
  | ok => exact .read rfl
  | error error =>
    change Settles _ _ (.error (error.raised room))
    unfold FormatError.raised
    split
    next => exact .malformed error
    next limit met =>
      refine .escaped ⟨fun fits => ?_, limit, rfl⟩
      rw [complains error rfl fits] at met
      cases met

theorem refuse_settles {room : Nat} {value : Value} {fits : α → Prop} {error : FormatError}
    (shown : error.shown? = some value) :
    Settles fits (Exceeds room value) (refuse room error) := by
  have complains : @Complains α room value (.error error) := by
    intro _ failed within
    cases failed
    rw [FormatError.limit?_of_shown shown room]
    exact within.written
  exact complains.settles.mono nofun fun _ => id

/-! Notes -/

theorem NoteOf.marked {value : Value} {note : Note} (described : NoteOf value note)
    (mark : TieMark) : NoteOf value (note.marked mark) := by
  cases described with
  | described pitched letter checked listed graced =>
    exact .described pitched letter checked listed graced

theorem NoteOf.linked {value : Value} {note : Note} (described : NoteOf value note)
    (ties : Ties) : NoteOf value (ties.linked note) := by
  cases described with
  | described pitched letter checked listed graced =>
    exact .described pitched letter checked listed graced

theorem letter_eq_ok {fields : Fields} {letter : Letter}
    (read : Document.letter fields = .ok letter) :
    ∃ pitch, field fields "pitch" (.string "C") = .string pitch ∧
      (Text.upper pitch).string? = some letter.name := by
  unfold Document.letter at read
  split at read
  next pitch given =>
    split at read
    next found named =>
      cases read
      obtain ⟨word, whole, known⟩ := Option.bind_eq_some_iff.mp named
      have same := List.find?_some known
      exact ⟨pitch, given, whole.trans (congrArg some (beq_iff_eq.mp same).symm)⟩
    next => cases read
  next => cases read

theorem field_cons (key other : LooseText) (value absent : Value) (rest : Fields) :
    field ((other, value) :: rest) key absent =
      if key = other then value else field rest key absent := by
  rw [field, field?, lookup_cons_ite]
  split <;> rfl

/-- The notes that are read are those that the values describe. -/
def NotesOf (values : Option (List Value)) (read : List Note × Ties) : Prop :=
  ∃ items, values = some items ∧ List.Forall₂ NoteOf items read.1

theorem enter_settles (room : Nat) :
    Settles (fun inside => 2 ≤ room ∧ inside = room - 2)
      (fun error => room < 2 ∧ error = .limit .nesting) (enter room) := by
  unfold enter
  split
  next short => exact .escaped ⟨short, rfl⟩
  next enough => exact .read ⟨Nat.not_lt.mp enough, rfl⟩

/-- A limit that is met because an object does not fit, or a value as a field of it. -/
def ExceedsAsField (room : Nat) (data value : Value) (error : LoadError) : Prop :=
  (¬ data.Fits room ∨ room < 3 ∨ value.limit? (room - 3) ≠ none) ∧ ∃ limit, error = .limit limit

theorem ExceedsAsField.whole {room : Nat} {fields : Fields} {field : LooseText × Value}
    {error : LoadError} (member : field ∈ fields)
    (exceeds : ExceedsAsField room (.object fields) field.2 error) :
    Exceeds room (.object fields) error := by
  refine ⟨fun fits => ?_, exceeds.2⟩
  rcases exceeds.1 with unfit | short | unwritten
  · exact unfit fits
  · exact absurd (three_le_room fits) (Nat.not_le.mpr short)
  · exact unwritten ((Value.limit?_object_eq_none.mp fits).2 field member)

private theorem limit?_of_parts {value : Value} (plain : ∀ items, value ≠ .array items)
    {parts : List Value} (listed : value.parts? = some parts) (room : Nat) :
    ∀ part ∈ parts, part.limit? room = none := by
  intro part member
  match value with
  | .array items => exact absurd rfl (plain items)
  | .string _ | .object _ =>
    cases listed
    obtain ⟨_, -, rfl⟩ := List.mem_map.mp member
    rfl

theorem firstPart_settles {room : Nat} {value first : Value} {rest : List Value}
    (plain : ∀ items, value ≠ .array items) (listed : value.parts? = some (first :: rest))
    {fits : α → Prop} :
    Settles fits (fun error => room < 2 ∧ ∃ limit, error = .limit limit) (do
      refuse (← enter room) (notNote first)) := by
  refine ((enter_settles room).mono (fun _ => id) ?_).bind fun inside _ => ?_
  · rintro error ⟨short, rfl⟩
    exact ⟨short, _, rfl⟩
  · refine (refuse_settles rfl).mono (fun _ => id) fun error unfit => ?_
    exact absurd (limit?_of_parts plain listed _ first List.mem_cons_self) unfit.1

theorem parts_settles (room : Nat) (ties : Ties) (data : Value) {value : Value}
    (plain : ∀ items, value ≠ .array items) :
    Settles (NotesOf value.parts?) (ExceedsAsField room data value)
      (match value.parts? with
      | some [] => .ok ([], ties)
      | some (first :: _) => do refuse (← enter room) (notNote first)
      | none => refuse room (.note data (.notIterable value))) := by
  split
  next listed => exact .read ⟨[], listed, .nil⟩
  next first rest listed =>
    refine (firstPart_settles plain listed).mono (fun _ => id) fun error short => ?_
    exact ⟨.inr (.inl (Nat.lt_succ_of_lt short.1)), short.2⟩
  next =>
    exact (refuse_settles rfl).mono (fun _ => id) fun error unfit => ⟨.inl unfit.1, unfit.2⟩

/-! The grace notes among the fields of a note are two levels further down, where they fit if the
note does. The proof goes along with the recursion of the readers. -/

mutual

theorem readNote_settles (value : Value) (room : Nat) (ties : Ties) :
    Settles (fun read => NoteOf value read.1) (Exceeds room value)
      (readNote room ties true value) :=
  match value with
  | .object fields => by
    simp only [readNote]
    refine (noteFields_complains fields).settles.bind fun plain checked => ?_
    refine ((readGrace_settles fields (.object fields) room ties).mono (fun _ => id) ?_).bind
      fun graced notes => ?_
    · rintro error ⟨field, member, exceeds⟩
      exact exceeds.whole member
    · refine (Complains.wrapped (letter fields) fun _ => rfl).settles.bind fun letter named => ?_
      obtain ⟨pitch, pitched, upper⟩ := letter_eq_ok (except_mapError_eq_ok.mp named)
      obtain ⟨values, listed, inner⟩ := notes
      exact .read (.described pitched upper checked listed inner)
  | .null | .bool _ | .int _ | .float _ | .string _ | .array _ => refuse_settles rfl
  termination_by structural value

theorem readGrace_settles (fields : Fields) (data : Value) (room : Nat) (ties : Ties) :
    Settles (NotesOf (field fields "grace" (.array [])).parts?)
      (fun error => ∃ field ∈ fields, ExceedsAsField room data field.2 error)
      (readGrace room ties data fields) :=
  match fields with
  | [] => .read ⟨[], rfl, .nil⟩
  | (key, value) :: rest => by
    rw [field_cons, readGrace]
    by_cases same : key = "grace"
    · rw [if_pos same, if_pos same.symm]
      refine (readGraceValue_settles value data room ties).mono (fun _ => id)
        fun error exceeds => ?_
      exact ⟨_, List.mem_cons_self, exceeds⟩
    · rw [if_neg same, if_neg (Ne.symm same)]
      refine (readGrace_settles rest data room ties).mono (fun _ => id) ?_
      rintro error ⟨field, member, exceeds⟩
      exact ⟨field, List.mem_cons_of_mem _ member, exceeds⟩
  termination_by structural fields

theorem readGraceValue_settles (value data : Value) (room : Nat) (ties : Ties) :
    Settles (NotesOf value.parts?) (ExceedsAsField room data value)
      (readGraceValue room ties data value) :=
  match value with
  | .array items => by
    simp only [readGraceValue]
    refine ((enter_settles room).mono (fun _ => id) ?_).bind fun inside entered => ?_
    · rintro error ⟨short, rfl⟩
      exact ⟨.inr (.inl (Nat.lt_succ_of_lt short)), _, rfl⟩
    · refine (readNotes_settles items inside ties).mono (fun read notes => ⟨items, rfl, notes⟩) ?_
      rintro error ⟨item, member, unfit, limit⟩
      refine ⟨.inr (.inr fun written => unfit ?_), limit⟩
      rw [Value.Fits, entered.2, Nat.sub_sub]
      exact (Value.limit?_array_eq_none.mp written).2 item member
  | .null => parts_settles room ties data nofun
  | .bool _ => parts_settles room ties data nofun
  | .int _ => parts_settles room ties data nofun
  | .float _ => parts_settles room ties data nofun
  | .string _ => parts_settles room ties data nofun
  | .object _ => parts_settles room ties data nofun
  termination_by structural value

theorem readNotes_settles (values : List Value) (room : Nat) (ties : Ties) :
    Settles (fun read => List.Forall₂ NoteOf values read.1)
      (fun error => ∃ value ∈ values, Exceeds room value error)
      (readNotes room ties true values) :=
  match values with
  | [] => .read .nil
  | value :: rest => by
    simp only [readNotes]
    refine ((readNote_settles value room ties).mono (fun _ => id) fun error exceeds => ?_).bind
      fun first described => ?_
    · exact ⟨value, List.mem_cons_self, exceeds⟩
    · refine ((readNotes_settles rest room first.2).mono (fun _ => id) ?_).bind
        fun others more => .read (.cons described more)
      rintro error ⟨other, member, exceeds⟩
      exact ⟨other, List.mem_cons_of_mem _ member, exceeds⟩
  termination_by structural values

end

/-! Notes with their tie fields -/

section
variable {room : Nat} {ties : Ties} {past : List Note}

theorem Unawaited.readNote_eq (keeps : ties.Keeps past) {value : Value} {note : Note}
    (unawaited : Unawaited room ties past value note) :
    readNote room ties false value = refuse room (.tieEnd note) := by
  obtain ⟨⟨after, read⟩, ⟨said, marked, ends⟩, none⟩ := unawaited
  obtain ⟨-, marks⟩ := readNote_of_marking read marked
  have kept : after.Keeps past := ties_of_readNote read ▸ keeps.renumbered after.nextId
  rw [marks, kept.mark_fails ends none]
  rfl

theorem UnawaitedIn.readNotes_eq (keeps : ties.Keeps past) {values : List Value} {note : Note}
    (unawaited : UnawaitedIn room ties past values note) :
    readNotes room ties false values = refuse room (.tieEnd note) := by
  obtain ⟨before, value, after, notes, next, rfl, read, refused⟩ := unawaited
  induction before generalizing ties past notes with
  | nil =>
    cases read
    rw [List.append_nil] at refused
    rw [List.nil_append, readNotes, refused.readNote_eq keeps]
    rfl
  | cons first rest ih =>
    obtain ⟨⟨note, middle⟩, here, read⟩ := except_bind_eq_ok.mp read
    obtain ⟨⟨others, last⟩, more, read⟩ := except_bind_eq_ok.mp read
    cases read
    rw [List.append_cons] at refused
    rw [List.cons_append, readNotes_cons here, ih (keeps.readNote here) _ more refused]
    rfl

theorem readMarked_settles (keeps : ties.Keeps past) (value : Value) :
    Settles (fun read => NoteOf value read.1)
      (fun error => Exceeds room value error ∨ ∃ note, Unawaited room ties past value note ∧
        note.isWritable = false ∧ error = .limit .digitsWritten)
      (readNote room ties false value) := by
  match value with
  | .null | .bool _ | .int _ | .float _ | .string _ | .array _ =>
    exact (refuse_settles rfl).mono (fun _ => id) fun _ => .inl
  | .object fields =>
    rw [readNote_false]
    refine ((readNote_settles (.object fields) room ties).exact.mono (fun _ => id)
      fun _ => .inl).bind fun plain described => ?_
    obtain ⟨note, after⟩ := plain
    obtain ⟨described, read⟩ := described
    refine ((tieMark_complains fields).settles.mono (fun _ => id) fun _ => .inl).bind
      fun mark known => ?_
    have kept : after.Keeps past := ties_of_readNote read ▸ keeps.renumbered after.nextId
    by_cases awaited : mark.ends = true → (awaiting? past note.place).isSome = true
    · obtain ⟨last, made, -⟩ := kept.mark_succeeds awaited
      rw [made]
      exact .read (described.marked mark)
    · obtain ⟨ends, unawaited⟩ := Classical.not_imp.mp awaited
      have none := Option.not_isSome_iff_eq_none.mp unawaited
      have marks : marking (.object fields) = some ⟨note.place, mark⟩ := by
        rw [marking_eq read, known]
        rfl
      rw [kept.mark_fails ends none]
      change Settles _ _ (refuse room (.tieEnd note))
      rw [refuse_tieEnd]
      cases overlong : note.isWritable with
      | true => exact .malformed _
      | false =>
        exact .escaped (.inr ⟨note, ⟨⟨after, read⟩, ⟨_, marks, ends⟩, none⟩, overlong, rfl⟩)

private theorem readMarkedNotes_settles (keeps : ties.Keeps past) (values : List Value) :
    Settles (fun read => List.Forall₂ NoteOf values read.1)
      (fun error => (∃ value ∈ values, Exceeds room value error) ∨
        ∃ note, UnawaitedIn room ties past values note ∧ note.isWritable = false ∧
          error = .limit .digitsWritten)
      (readNotes room ties false values) := by
  induction values generalizing ties past with
  | nil => exact .read .nil
  | cons value rest ih =>
    rw [readNotes]
    refine ((readMarked_settles keeps value).exact.mono (fun _ => id) ?_).bind
      fun first described => ?_
    · rintro error (exceeds | ⟨note, unawaited, overlong⟩)
      · exact .inl ⟨value, List.mem_cons_self, exceeds⟩
      · refine .inr ⟨note, ⟨[], value, rest, [], ties, rfl, rfl, ?_⟩, overlong⟩
        rwa [List.append_nil]
    · obtain ⟨note, middle⟩ := first
      obtain ⟨described, read⟩ := described
      refine ((ih (keeps.readNote read)).mono (fun _ => id) ?_).bind fun others more =>
        .read (.cons described more)
      rintro error (⟨other, member, exceeds⟩ | ⟨last, unawaited, overlong⟩)
      · exact .inl ⟨other, List.mem_cons_of_mem _ member, exceeds⟩
      · obtain ⟨before, stop, after, notes, next, rfl, passed, refused⟩ := unawaited
        refine .inr ⟨last, ⟨value :: before, stop, after, note :: notes, next, rfl, ?_, ?_⟩,
          overlong⟩
        · rw [readNotes_cons read, passed]
          rfl
        · rwa [List.append_cons]

end

/-! Other items -/

private theorem parts?_ne_nil {value : Value} (filled : value.isEmpty = false) :
    value.parts? ≠ some [] := by
  intro none
  match value with
  | .array items =>
    cases Option.some.inj none
    cases filled
  | .string text =>
    have units := List.map_eq_nil_iff.mp (List.map_eq_nil_iff.mp (Option.some.inj none))
    rw [Value.isEmpty, LooseText.isEmpty, units] at filled
    cases filled
  | .object fields =>
    rw [Value.isEmpty, List.map_eq_nil_iff.mp (Option.some.inj none)] at filled
    cases filled

/-- A number that is not zero is neither empty nor anything to go through. -/
theorem isTruthyNumber_iff {value : Value} :
    IsTruthyNumber value ↔ value.isEmpty = false ∧ value.parts? = none := by
  match value with
  | .null => exact ⟨nofun, fun none => absurd none.1 Bool.noConfusion⟩
  | .bool flag => simp [IsTruthyNumber, Value.isEmpty, Value.parts?]
  | .int number => simp [IsTruthyNumber, Value.isEmpty, Value.parts?]
  | .float number => simp [IsTruthyNumber, Value.isEmpty, Value.parts?]
  | .string _ | .array _ | .object _ => exact ⟨nofun, fun listed => nomatch listed.2⟩

section
variable {room : Nat} {ties : Ties} {past : List Note} {fields : Fields}

theorem chord_settles (keeps : ties.Keeps past)
    (type : field fields "type" .null = .string "chord") :
    Settles (fun read : Chord × Ties => ∃ first rest,
        field fields "notes" .null = .array (first :: rest) ∧
          List.Forall₂ NoteOf (first :: rest) read.1.notes)
      (Stops room ties past (.object fields)) (chord room ties fields) := by
  unfold chord
  dsimp only
  cases filled : (field fields "notes" .null).isEmpty with
  | true => exact .malformed .emptyChord
  | false =>
    rw [if_neg Bool.false_ne_true]
    split
    next items listed =>
      refine ((enter_settles room).exact.mono (fun _ => id) ?_).bind fun inside entered => ?_
      · rintro error ⟨short, rfl⟩
        refine .exceeds ⟨fun fits => ?_, _, rfl⟩
        exact absurd (three_le_room fits) (by omega)
      obtain ⟨⟨-, rfl⟩, entered⟩ := entered
      refine ((readMarkedNotes_settles keeps items).mono (fun _ => id) ?_).bind
        fun read notes => ?_
      · rintro error (⟨item, member, unfit, limit⟩ | ⟨note, unawaited, overlong, rfl⟩)
        · exact .exceeds ⟨fun fits => unfit (fits_of_listed fits rfl listed item member), limit⟩
        · exact .refused (.chord type entered listed unawaited) overlong
      cases items with
      | nil =>
        rw [listed] at filled
        cases filled
      | cons first rest => exact .read ⟨first, rest, listed, notes⟩
    next plain =>
      split
      next first rest listed =>
        refine (firstPart_settles plain listed).mono (fun _ => id) fun error short => ?_
        refine .exceeds ⟨fun fits => ?_, short.2⟩
        exact absurd (three_le_room fits) (by omega)
      next other =>
        have unlisted : (field fields "notes" .null).parts? = none := by
          cases listed : (field fields "notes" .null).parts? with
          | none => rfl
          | some parts =>
            cases parts with
            | nil => exact absurd listed (parts?_ne_nil filled)
            | cons first rest => exact absurd listed (other first rest)
        exact .escaped (.escapes (.chord type (isTruthyNumber_iff.mpr ⟨filled, unlisted⟩)))

end

theorem chord_of_number (room : Nat) (ties : Ties) {fields : Fields}
    (number : IsTruthyNumber (field fields "notes" .null)) :
    chord room ties fields = .error (.chordNotes (field fields "notes" .null)) := by
  obtain ⟨filled, unlisted⟩ := isTruthyNumber_iff.mp number
  unfold chord
  generalize field fields "notes" .null = notes at filled unlisted
  simp only [filled, Bool.false_eq_true, if_false]
  split
  next => cases unlisted
  next => rw [unlisted]

private theorem passNumber_settles (room : Nat) (data value : Value) :
    Settles (fun number => wholePart? value = some number)
      (fun error => Exceeds room data error ∨
        error = .infinitePass ∧ ∃ negative, value = .float (.infinite negative))
      (passNumber room data value) := by
  have refused {fits : Int → Prop} {cause : FieldFault} :
      Settles fits (fun error => Exceeds room data error ∨
        error = .infinitePass ∧ ∃ negative, value = .float (.infinite negative))
        (refuse room (.ending data cause)) :=
    (refuse_settles rfl).mono (fun _ => id) fun _ => .inl
  match value with
  | .int _ | .bool _ => exact .read rfl
  | .float .nan => exact refused
  | .float (.infinite negative) => exact .escaped (.inr ⟨rfl, negative, rfl⟩)
  | .float (.finite _ _ _) => exact .read rfl
  | .string text =>
    simp only [passNumber]
    split
    next named =>
      refine .read ?_
      rw [wholePart?, named]
      rfl
    next => exact refused
    next => exact refused
  | .null | .array _ | .object _ => exact refused

private theorem passNumber_of_wholePart (room : Nat) (data : Value) {value : Value} {number : Int}
    (whole : wholePart? value = some number) : passNumber room data value = .ok number := by
  match value with
  | .int _ | .bool _ | .float (.finite _ _ _) => exact congrArg Except.ok (Option.some.inj whole)
  | .string text => simp only [passNumber, except_eq_ok_of_toOption whole]

theorem passNumbers_settle (room : Nat) (data : Value) (values : List Value) :
    Settles (fun _ => True)
      (fun error => Exceeds room data error ∨ error = .infinitePass ∧ StopsAtInfinity values)
      (values.mapM (passNumber room data)) := by
  induction values with
  | nil => exact .read trivial
  | cons value rest ih =>
    rw [List.mapM_cons]
    refine ((passNumber_settles room data value).mono (fun _ => id) ?_).bind
      fun number whole => ?_
    · rintro error (exceeds | ⟨same, negative, rfl⟩)
      · exact .inl exceeds
      · exact .inr ⟨same, [], negative, rest, rfl, nofun⟩
    · refine (ih.mono (fun _ => id) ?_).bind fun _ _ => .read trivial
      rintro error (exceeds | ⟨same, before, negative, after, split, converted⟩)
      · exact .inl exceeds
      · refine .inr ⟨same, value :: before, negative, after, congrArg (value :: ·) split, ?_⟩
        exact List.forall_mem_cons.mpr ⟨whole ▸ rfl, converted⟩

theorem passNumbers_of_infinite (room : Nat) (data : Value) {values : List Value}
    (stops : StopsAtInfinity values) :
    values.mapM (passNumber room data) = .error .infinitePass := by
  obtain ⟨before, negative, after, rfl, converted⟩ := stops
  induction before with
  | nil => rfl
  | cons value rest ih =>
    rw [List.forall_mem_cons] at converted
    obtain ⟨number, whole⟩ := Option.isSome_iff_exists.mp converted.1
    rw [List.cons_append, List.mapM_cons, passNumber_of_wholePart room data whole, ih converted.2]
    rfl

/-- Only the items of an array can be numbers that are not whole. -/
private theorem passValues_of_infinite {room : Nat} {data value : Value} {values : List Value}
    {negative : Bool} (given : passValues room data value = .ok values)
    (member : .float (.infinite negative) ∈ values) :
    value = .array values := by
  match value with
  | .array items =>
    cases given
    rfl
  | .int _ | .bool _ =>
    cases given
    cases List.mem_singleton.mp member
  | .string _ | .object _ =>
    cases given
    obtain ⟨_, -, same⟩ := List.mem_map.mp member
    cases same

private theorem passValues_settles (room : Nat) (data value : Value) :
    Settles (fun values => passValues room data value = .ok values) (Exceeds room data)
      (passValues room data value) := by
  match value with
  | .int _ | .bool _ | .array _ | .string _ | .object _ => exact .read rfl
  | .null | .float _ => exact refuse_settles rfl

section
variable {room : Nat} {ties : Ties} {past : List Note} {fields : Fields}

theorem ending_settles (type : field fields "type" .null = .string "ending") :
    Settles (fun numbered => ending room fields = .ok numbered)
      (Stops room ties past (.object fields)) (ending room fields) := by
  refine (@Settles.exact _ (fun _ => True) _ _ ?_).mono (fun _ read => read.2) fun _ => id
  refine ((passValues_settles room _ _).mono (fun _ => id) fun _ => .exceeds).bind
    fun values given => ?_
  refine ((passNumbers_settle room _ values).mono (fun _ => id) ?_).bind fun numbers _ => ?_
  · rintro error (exceeds | ⟨rfl, stops⟩)
    · exact .exceeds exceeds
    · obtain ⟨before, negative, after, rfl, converted⟩ := stops
      refine .escapes (.ending type ?_ ⟨before, negative, after, rfl, converted⟩)
      exact passValues_of_infinite given (List.mem_append_right before List.mem_cons_self)
  · exact (Complains.wrapped _ fun _ => rfl).settles.mono (fun _ _ => trivial) fun _ => .exceeds

theorem ending_of_infinite (room : Nat) {values : List Value}
    (listed : field fields "numbers" (.array [.int 1]) = .array values)
    (stops : StopsAtInfinity values) : ending room fields = .error .infinitePass := by
  simp only [ending, listed, passValues, Value.parts?, Option.elim_some, bind, Except.bind,
    passNumbers_of_infinite room _ stops]

private theorem tempoValue_settles (room : Nat) (data value : Value) :
    Settles (fun _ => True) (fun error => Exceeds room data error ∨ error = .tempoTooLarge ∧
      ∃ number, value = .int number ∧ (Binary64.ofInt number).isInfinite = true)
      (tempoValue room data value) := by
  match value with
  | .float _ | .bool _ => exact .read trivial
  | .int number =>
    simp only [tempoValue, Binary64.ofWhole]
    split
    next large => exact .escaped (.inr ⟨rfl, number, rfl, large⟩)
    next => exact .read trivial
  | .string text =>
    simp only [tempoValue]
    split
    next => exact .read trivial
    next => exact (refuse_settles rfl).mono (fun _ => id) fun _ => .inl
  | .null | .array _ | .object _ =>
    exact (refuse_settles rfl).mono (fun _ => id) fun _ => .inl

theorem tempo_settles (type : field fields "type" .null = .string "tempo") :
    Settles (fun marked => tempo room fields = .ok marked)
      (Stops room ties past (.object fields)) (tempo room fields) := by
  refine (@Settles.exact _ (fun _ => True) _ _ ?_).mono (fun _ read => read.2) fun _ => id
  unfold tempo
  dsimp only
  split
  next => exact (refuse_settles rfl).mono (fun _ => id) fun _ => .exceeds
  next value given =>
    refine ((tempoValue_settles room _ value).mono (fun _ => id) ?_).bind fun number _ => ?_
    · rintro error (exceeds | ⟨rfl, number, rfl, large⟩)
      · exact .exceeds exceeds
      · exact .escapes (.tempo type given large)
    · refine ((units_complains fields "reference").settles.mono (fun _ => id)
        fun _ => .exceeds).bind fun reference _ => ?_
      exact (Complains.wrapped _ fun _ => rfl).settles.mono (fun _ _ => trivial) fun _ => .exceeds

theorem tempo_of_large (room : Nat) {number : Int}
    (given : field? fields "value" = some (.int number))
    (large : (Binary64.ofInt number).isInfinite = true) :
    tempo room fields = .error .tempoTooLarge := by
  simp only [tempo, given, tempoValue, Binary64.ofWhole, large, if_true]
  rfl

end

/-! Entries -/

private theorem noteFields_isRest {fields : Fields} {read : NoteFields}
    (checked : noteFields fields = .ok read) :
    read.isRest = (field fields "type" .null).isText "rest" := by
  obtain ⟨octave, -, checked⟩ := except_bind_eq_ok.mp checked
  obtain ⟨accidental, -, checked⟩ := except_bind_eq_ok.mp checked
  obtain ⟨duration, -, checked⟩ := except_bind_eq_ok.mp checked
  obtain ⟨transposition, -, checked⟩ := except_bind_eq_ok.mp checked
  cases checked
  rfl

theorem NoteOf.isRest {fields : Fields} {note : Note} (described : NoteOf (.object fields) note) :
    note.isRest = (field fields "type" .null).isText "rest" := by
  cases described with
  | described pitched letter checked => exact noteFields_isRest checked

section
variable {room : Nat} {ties : Ties} {past : List Note}

theorem readItem_settles (keeps : ties.Keeps past) (value : Value) :
    Settles (fun read => ItemOf value read.1) (Stops room ties past value)
      (readItem room ties value) := by
  match value with
  | .null | .bool _ | .int _ | .float _ | .string _ | .array _ =>
    exact (refuse_settles rfl).mono (fun _ => id) fun _ => .exceeds
  | .object fields =>
    -- What a complaint of a type shows is the type, which is a field of the entry.
    have untyped {fits : Item × Ties → Prop} : Settles fits (Stops room ties past (.object fields))
        (refuse room (.itemType (field fields "type" .null))) := by
      have complains : @Complains (Item × Ties) room (.object fields)
          (.error (.itemType (field fields "type" .null))) := .field rfl rfl
      exact complains.settles.mono nofun fun _ => .exceeds
    cases type : field fields "type" .null with
    | null | bool | int | float | array | object =>
      rw [type] at untyped
      simp only [readItem, type]
      exact untyped
    | string name =>
      rw [type] at untyped
      simp only [readItem, type]
      split_ifs with single chord bar ending key tempo
      · have named : name = "note" ∨ name = "rest" := by simpa using single
        refine ((readMarked_settles keeps (.object fields)).mono (fun _ => id) ?_).bind
          fun read described => .read (.note ?_ described)
        · rintro error (exceeds | ⟨note, unawaited, overlong, rfl⟩)
          · exact .exceeds exceeds
          · exact .refused (.note type named unawaited) overlong
        · rw [type, described.isRest, type]
          rcases named with rfl | rfl <;> rfl
      · subst chord
        refine (chord_settles keeps type).bind fun read notes => ?_
        obtain ⟨first, rest, listed, notes⟩ := notes
        exact .read (.chord type listed notes)
      · subst bar
        exact ((barLine_complains fields).settles.mono (fun _ => id) fun _ => .exceeds).bind
          fun line read => .read (.bar type read)
      · subst ending
        exact (ending_settles type).bind fun numbered read => .read (.ending type read)
      · subst key
        exact ((key_complains fields).settles.mono (fun _ => id) fun _ => .exceeds).bind
          fun declared read => .read (.key type read)
      · subst tempo
        exact (tempo_settles type).bind fun marked read => .read (.tempo type read)
      · exact untyped

/-- Whatever was read before, such an entry is not read. -/
theorem readItem_of_escapes {value : Value} {error : LoadError} (escapes : Escapes value error)
    (room : Nat) (ties : Ties) : readItem room ties value = .error error := by
  cases escapes with
  | chord type number =>
    simp only [readItem, type, chord_of_number room ties number]
    rfl
  | ending type listed stops =>
    simp only [readItem, type, ending_of_infinite room listed stops]
    rfl
  | tempo type given large =>
    simp only [readItem, type, tempo_of_large room given large]
    rfl

theorem readItem_of_refused (keeps : ties.Keeps past) {value : Value} {note : Note}
    (refused : Refused room ties past value note) :
    readItem room ties value = refuse room (.tieEnd note) := by
  cases refused with
  | note type single unawaited =>
    have kind : (_ || _) = true :=
      Bool.or_eq_true_iff.mpr (single.imp decide_eq_true decide_eq_true)
    simp only [readItem, type, kind, if_true, unawaited.readNote_eq keeps]
    rfl
  | @chord fields inside values _ type entered listed unawaited =>
    have filled : (Value.array values).isEmpty = false := by
      obtain ⟨before, last, after, -, -, rfl, -⟩ := unawaited
      cases before <;> rfl
    rw [readItem_chord type, listed, chordFrame, filled, entered]
    change (readNotes inside ties false values >>= _) = _
    rw [unawaited.readNotes_eq keeps]
    rfl

end

end ScorePlayback.Document
