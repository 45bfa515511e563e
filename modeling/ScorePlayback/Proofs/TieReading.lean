import ScorePlayback.Proofs.NoteReading

/-! Documents read note by note. Where a document can be read without its tie fields, its reading
only fails at the first note that ends a tie which nothing awaits, and else its notes are those
marked. -/

namespace ScorePlayback

/-- The note without its tie mark. -/
def Note.unmarked (note : Note) : Note := note.marked .absent

theorem Note.Untied.unmarked_marked {note : Note} (untied : note.Untied)
    (mark : Document.TieMark) : (note.marked mark).unmarked = note := by
  cases note
  cases untied.begins
  cases untied.ends
  rfl

/-- Whether the numbers that messages show of a note can be written. -/
def Note.isWritable (note : Note) : Bool :=
  ScorePlayback.isWritable note.duration && (note.isRest || ScorePlayback.isWritable note.octave)

theorem Note.exists_text {note : Note} (writable : note.isWritable = true) :
    ∃ text, note.text = .ok text := by
  unfold isWritable at writable
  obtain ⟨duration, octave⟩ := Bool.and_eq_true_iff.mp writable
  unfold text
  rw [writeWhole_of_isWritable duration]
  split
  next => exact ⟨_, rfl⟩
  next sounds =>
    rw [writeWhole_of_isWritable ((Bool.or_eq_true_iff.mp octave).resolve_left sounds)]
    exact ⟨_, rfl⟩

theorem Note.text_of_overlong {note : Note} (overlong : note.isWritable = false) :
    note.text = .error .digitsWritten := by
  unfold text
  split
  next rest =>
    rw [isWritable, rest, Bool.true_or, Bool.and_true] at overlong
    rw [writeWhole_of_overlong overlong]
    rfl
  next sounds =>
    rw [isWritable, Bool.eq_false_iff.mpr sounds, Bool.false_or] at overlong
    cases octave : ScorePlayback.isWritable note.octave with
    | false =>
      rw [writeWhole_of_overlong octave]
      rfl
    | true =>
      rw [octave, Bool.and_true] at overlong
      rw [writeWhole_of_isWritable octave, writeWhole_of_overlong overlong]
      rfl

namespace Document

/-! Documents without ties -/

def changeField (key : LooseText) (change : Value → Value) (field : LooseText × Value) :
    LooseText × Value := (field.1, if field.1 = key then change field.2 else field.2)

/-- The value with a field changed. -/
def changed (key : LooseText) (change : Value → Value) : Value → Value
  | .object fields => .object (fields.map (changeField key change))
  | value => value

def each (change : Value → Value) : Value → Value
  | .array items => .array (items.map change)
  | value => value

def itemsOf : Value → List Value
  | .array items => items
  | _ => []

def typeName? (item : Value) : Option LooseText :=
  match item.field? "type" with
  | some (.string name) => some name
  | _ => none

/-- The values of an item's notes, a chord's from left to right. -/
def noteValues (item : Value) : List Value :=
  match typeName? item with
  | some name =>
    if name = "note" || name = "rest" then [item]
    else if name = "chord" then itemsOf ((item.field? "notes").getD .null)
    else []
  | none => []

/-- An item without the tie fields of its notes. -/
def untiedItem (item : Value) : Value :=
  match typeName? item with
  | some name =>
    if name = "note" || name = "rest" then untied item
    else if name = "chord" then changed "notes" (each untied) item
    else item
  | none => item

/-- A document without the tie fields of its notes. Grace notes keep theirs, which say nothing. -/
def withoutTies (document : Value) : Value := changed "items" (each untiedItem) document

/-- What a document says of the ties of its notes, in order. -/
def markings? (document : Value) : Option (List Marking) :=
  ((itemsOf ((document.field? "items").getD .null)).flatMap noteValues).mapM marking

/-! Readings -/

/-- What comes of reading more notes after some: either they are read and marked, or the first of
them that ends a tie which nothing awaits is refused. -/
inductive Outcome (past notes : List Note) (last : Nat) (value : α) :
    Except LoadError (α × Ties) → Prop
  | read {ties : Ties} (closes : Closes past notes) (keeps : ties.Keeps (past ++ notes))
      (next : ties.nextId = last) : Outcome past notes last value (.ok (value, ties))
  | refused {before after : List Note} {note : Note} (room : Nat)
      (split : notes = before ++ note :: after) (closes : Closes past before)
      (unmatched : ¬ Closes past (before ++ [note])) :
      Outcome past notes last value (refuse room (.tieEnd note.unmarked))

theorem Outcome.bind {past notes more : List Note} {middle last : Nat} {value : α} {result : β}
    {first : Except LoadError (α × Ties)} {next : α × Ties → Except LoadError (β × Ties)}
    (start : Outcome past notes middle value first)
    (rest : ∀ ties : Ties, ties.Keeps (past ++ notes) → ties.nextId = middle →
      Outcome (past ++ notes) more last result (next (value, ties))) :
    Outcome past (notes ++ more) last result (first >>= next) := by
  cases start with
  | @refused before after note room split closes unmatched =>
    have whole : notes ++ more = before ++ note :: (after ++ more) := by
      rw [split, List.append_assoc, List.cons_append]
    exact .refused room whole closes unmatched
  | @read ties closes keeps same =>
    have later := rest ties keeps same
    change Outcome past (notes ++ more) last result (next (value, ties))
    generalize next (value, ties) = outcome at later ⊢
    cases later with
    | @refused before after note room split onward unmatched =>
      have whole : notes ++ more = notes ++ before ++ note :: after := by
        rw [split, List.append_assoc]
      refine .refused room whole ((closes_append _ _ _).mpr ⟨closes, onward⟩) ?_
      rw [List.append_assoc, closes_append]
      exact fun both => unmatched both.2
    | read onward keeps next =>
      rw [List.append_assoc] at keeps
      exact .read ((closes_append _ _ _).mpr ⟨closes, onward⟩) keeps next

/-- A reading of notes with the numbers from one on, whatever was read before. -/
def Reads (first last : Nat) (notes : List Note) (value : α)
    (read : Ties → Except LoadError (α × Ties)) : Prop :=
  ∀ past ties, ties.Keeps past → ties.nextId = first → Outcome past notes last value (read ties)

namespace Reads

theorem nothing (last : Nat) (value : α) :
    Reads last last [] value fun ties => .ok (value, ties) := by
  intro past ties keeps next
  rw [← List.append_nil past] at keeps
  exact .read trivial keeps next

theorem map {notes : List Note} {first last : Nat} {value : α}
    {read : Ties → Except LoadError (α × Ties)} (start : Reads first last notes value read)
    (make : α → β) :
    Reads first last notes (make value) fun ties => do
      let (value, ties) ← read ties
      return (make value, ties) := by
  intro past ties keeps same
  have start := start past ties keeps same
  beta_reduce
  generalize read ties = outcome at start ⊢
  cases start with
  | read closes keeps next => exact .read closes keeps next
  | refused room split closes unmatched => exact .refused room split closes unmatched

theorem both {notes more : List Note} {first middle last : Nat} {value : α} {other : β}
    {read : Ties → Except LoadError (α × Ties)} {next : Ties → Except LoadError (β × Ties)}
    (start : Reads first middle notes value read) (rest : Reads middle last more other next)
    (make : α → β → γ) :
    Reads first last (notes ++ more) (make value other) fun ties => do
      let (value, ties) ← read ties
      let (other, ties) ← next ties
      return (make value other, ties) := by
  intro past ties keeps same
  refine (start past ties keeps same).bind fun after kept onward => ?_
  exact rest.map (make value) _ after kept onward

end Reads

/-! Notes -/

section
variable {room : Nat} {ties after : Ties}

theorem reads_note {value : Value} {plain : Note} {said : Marking}
    (read : readNote room ties true value = .ok (plain, after))
    (marked : marking value = some said) :
    Reads ties.nextId after.nextId [plain.marked said.mark] (plain.marked said.mark)
      (readNote room · false value) := by
  intro past other keeps same
  obtain ⟨-, free, again⟩ := readNote_numbers value room ties plain after read
  have untied := free plain List.mem_cons_self
  obtain ⟨place, marks⟩ := readNote_of_marking (again other same) marked
  have keeps := keeps.renumbered after.nextId
  change Outcome _ _ _ _ (readNote room other false value)
  rw [marks]
  -- Without its tie field the note reads in any case, so only the mark can be refused.
  by_cases awaited : said.mark.ends = true → (awaiting? past plain.place).isSome = true
  · obtain ⟨last, made, kept, next⟩ := keeps.mark_succeeds awaited
    rw [made]
    exact .read ⟨awaited, trivial⟩ kept next
  · obtain ⟨ends, unawaited⟩ := Classical.not_imp.mp awaited
    rw [keeps.mark_fails ends (Option.not_isSome_iff_eq_none.mp unawaited)]
    have refused : Outcome past [plain.marked said.mark] after.nextId (plain.marked said.mark)
        (refuse room (.tieEnd (plain.marked said.mark).unmarked)) :=
      @Outcome.refused _ _ _ _ _ [] [] _ room rfl trivial fun closes => awaited closes.1
    rwa [untied.unmarked_marked] at refused

/-- A note without a tie field changes the next number alone. -/
theorem ties_of_readNote {value : Value} {plain : Note}
    (read : readNote room ties true value = .ok (plain, after)) :
    after = { ties with nextId := after.nextId } := by
  obtain ⟨-, -, again⟩ := readNote_numbers value room ties plain after read
  have same : (plain, after) = (plain, { ties with nextId := after.nextId }) :=
    Except.ok.inj (read.symm.trans (again ties rfl))
  exact (Prod.mk.inj same).2

/-- Notes as a document describes them: their numbers, what is said of their ties, and what they are
without it. -/
structure Described (first last : Nat) (markings : List Marking) (plain notes : List Note) :
    Prop where
  numbered : Note.Numbered first last notes
  markings : notes.map Note.marking = markings
  unmarked : notes.map Note.unmarked = plain
  untied : ∀ note ∈ plain, note.Untied

theorem Described.nil (first : Nat) : Described first first [] [] [] where
  numbered := .nil first
  markings := rfl
  unmarked := rfl
  untied := nofun

theorem Described.append {first middle last : Nat} {before after : List Marking}
    {plain bare notes more : List Note} (start : Described first middle before plain notes)
    (rest : Described middle last after bare more) :
    Described first last (before ++ after) (plain ++ bare) (notes ++ more) where
  numbered := start.numbered.append rest.numbered
  markings := by rw [List.map_append, start.markings, rest.markings]
  unmarked := by rw [List.map_append, start.unmarked, rest.unmarked]
  untied := List.forall_mem_append.mpr ⟨start.untied, rest.untied⟩

private theorem described_note {value : Value} {plain : Note} {said : Marking}
    (read : readNote room ties true value = .ok (plain, after))
    (marked : marking value = some said) :
    Described ties.nextId after.nextId [said] [plain] [plain.marked said.mark] := by
  obtain ⟨numbered, free, -⟩ := readNote_numbers value room ties plain after read
  obtain ⟨place, -⟩ := readNote_of_marking read marked
  constructor
  · exact numbered.marked said.mark
  · rw [List.map_singleton, Note.marking_marked, place]
  · rw [List.map_singleton, (free plain List.mem_cons_self).unmarked_marked]
  · exact free

theorem exists_reads_notes {values : List Value} {plain : List Note} {markings : List Marking}
    (read : readNotes room ties false (values.map untied) = .ok (plain, after))
    (marked : values.mapM marking = some markings) :
    ∃ notes, Reads ties.nextId after.nextId notes notes (readNotes room · false values) ∧
      Described ties.nextId after.nextId markings plain notes ∧ plain.length = values.length ∧
        after.links = ties.links := by
  induction values generalizing ties plain markings with
  | nil =>
    cases read
    cases marked
    exact ⟨[], .nothing _ _, .nil _, rfl, rfl⟩
  | cons value rest ih =>
    obtain ⟨⟨note, middle⟩, first, read⟩ := except_bind_eq_ok.mp read
    obtain ⟨⟨others, last⟩, more, read⟩ := except_bind_eq_ok.mp read
    cases read
    rw [List.mapM_cons] at marked
    obtain ⟨said, here, marked⟩ := Option.bind_eq_some_iff.mp marked
    obtain ⟨later, there, marked⟩ := Option.bind_eq_some_iff.mp marked
    cases marked
    have first := readNote_untied.mp first
    obtain ⟨notes, reads, described, length, links⟩ := ih more there
    refine ⟨note.marked said.mark :: notes, ?_, (described_note first here).append described,
      congrArg Nat.succ length, links.trans ?_⟩
    · exact (reads_note first here).both reads List.cons
    · rw [ties_of_readNote first]

end

/-! Items -/

section Changed
variable (fields : Fields) (key : LooseText) (change : Value → Value)

theorem field?_changed (other : LooseText) : field? (fields.map (changeField key change)) other =
    (field? fields other).map fun value => if other = key then change value else value := by
  unfold field?
  induction fields with
  | nil => rfl
  | cons field rest ih =>
    obtain ⟨name, value⟩ := field
    rw [List.map_cons, changeField, lookup_cons_ite, lookup_cons_ite, ih]
    split
    next same => rw [same, Option.map_some]
    next => rfl

theorem field_changed (null : change .null = .null) :
    field (fields.map (changeField key change)) key .null = change (field fields key .null) := by
  rw [field, field, field?_changed]
  cases field? fields key with
  | none => exact null.symm
  | some value => exact if_pos rfl

theorem field_changed_of_ne {other : LooseText} (differs : other ≠ key) (absent : Value) :
    field (fields.map (changeField key change)) other absent = field fields other absent := by
  rw [field, field, field?_changed]
  cases field? fields other with
  | none => rfl
  | some value => exact if_neg differs

end Changed

theorem typeName?_eq_some {item : Value} {name : LooseText} (named : typeName? item = some name) :
    ∃ fields, item = .object fields ∧ field fields "type" .null = .string name := by
  unfold typeName? at named
  split at named
  next found =>
    cases named
    match item with
    | .object fields =>
      have here : field? fields "type" = some (.string name) := found
      exact ⟨fields, rfl, by rw [field, here, Option.getD_some]⟩
  next => cases named

theorem typeName?_of_field {fields : Fields} {name : LooseText}
    (type : field fields "type" .null = .string name) : typeName? (.object fields) = some name := by
  have found : Value.field? "type" (.object fields) = some (.string name) := by
    rw [field] at type
    change field? fields "type" = _
    cases here : field? fields "type" with
    | none => rw [here] at type; cases type
    | some value => rw [here] at type; exact congrArg some type
  rw [typeName?, found]

/-- An item around its notes, and the room that is left for them. -/
structure Frame where
  room : Nat
  make : List Note → Item

theorem readItem_single {fields : Fields} {name : LooseText}
    (type : field fields "type" .null = .string name)
    (kind : (name = "note" || name = "rest") = true) (room : Nat) (ties : Ties) :
    readItem room ties (.object fields) = (do
      let (notes, ties) ← readNotes room ties false [.object fields]
      return ((notes.map Item.note).headD .absent, ties)) := by
  simp only [readItem, type, kind, if_true, readNotes, bind_assoc, pure_bind]
  cases readNote room ties false (.object fields) <;> rfl

/-- What a chord is made of. -/
def chordFrame (room : Nat) (notes : Value) : Except LoadError Frame :=
  if notes.isEmpty then refuse room .emptyChord
  else
    match notes with
    | .array _ => return ⟨← enter room, fun notes => .chord ⟨notes⟩⟩
    | value =>
      match value.parts? with
      | some (first :: _) => do refuse (← enter room) (notNote first)
      | _ => .error (.chordNotes value)

theorem readItem_chord {fields : Fields} (type : field fields "type" .null = .string "chord")
    (room : Nat) (ties : Ties) :
    readItem room ties (.object fields) = (do
      let frame ← chordFrame room (field fields "notes" .null)
      let (notes, ties) ← readNotes frame.room ties false (itemsOf (field fields "notes" .null))
      return (frame.make notes, ties)) := by
  have note : ("chord" : LooseText) ≠ "note" := by decide
  have rest : ("chord" : LooseText) ≠ "rest" := by decide
  simp only [readItem, type, note, rest, decide_false, Bool.or_self, Bool.false_eq_true, if_false,
    if_true, chord, chordFrame]
  generalize field fields "notes" .null = notes
  cases notes.isEmpty with
  | true => rfl
  | false =>
    cases notes with
    | array items =>
      simp only [Bool.false_eq_true, if_false, itemsOf, bind_assoc, pure_bind]
    | null | bool | int | float | string | object =>
      simp only [Bool.false_eq_true, if_false]
      generalize Value.parts? _ = parts
      cases parts with
      | none => rfl
      | some values =>
        cases values with
        | nil => rfl
        | cons => cases enter room <;> rfl

private theorem chordFrame_each (room : Nat) (notes : Value) :
    chordFrame room (each untied notes) = chordFrame room notes := by
  match notes with
  | .array [] => rfl
  | .array (_ :: _) => rfl
  | .null | .bool _ | .int _ | .float _ | .string _ | .object _ => rfl

private theorem itemsOf_each (change : Value → Value) (value : Value) :
    itemsOf (each change value) = (itemsOf value).map change := by
  cases value <;> rfl

/-- How an item is read: it is refused, or else it is made of its notes. -/
structure Framed (room : Nat) (item : Value) (frame : Except LoadError Frame) : Prop where
  read : ∀ ties, readItem room ties item = do
    let frame ← frame
    let (notes, ties) ← readNotes frame.room ties false (noteValues item)
    return (frame.make notes, ties)
  untied : ∀ ties, readItem room ties (untiedItem item) = do
    let frame ← frame
    let (notes, ties) ← readNotes frame.room ties false ((noteValues item).map untied)
    return (frame.make notes, ties)
  notes : ∀ made notes, frame = .ok made → notes.length = (noteValues item).length →
    (made.make notes).notes = notes

theorem framed_single (room : Nat) {item : Value} {name : LooseText}
    (named : typeName? item = some name) (single : name = "note" ∨ name = "rest") :
    Framed room item (.ok ⟨room, fun notes => (notes.map Item.note).headD .absent⟩) := by
  obtain ⟨fields, rfl, type⟩ := typeName?_eq_some named
  have kind : (name = "note" || name = "rest") = true := by simpa using single
  have values : noteValues (.object fields) = [.object fields] := by
    simp only [noteValues, named, kind, if_true]
  have bare : untiedItem (.object fields) = .object (fields.filter (·.1 != "tie")) := by
    simp only [untiedItem, named, kind, if_true, untied]
  constructor
  · intro ties
    rw [values, readItem_single type kind]
    rfl
  · intro ties
    rw [values, bare, readItem_single ((field_untied fields _ (by decide) _).trans type) kind]
    rfl
  · intro made notes same length
    cases same
    rw [values] at length
    obtain ⟨note, rfl⟩ := List.length_eq_one_iff.mp length
    rfl

theorem exists_framed_chord (room : Nat) {item : Value} (named : typeName? item = some "chord") :
    ∃ frame, Framed room item frame := by
  obtain ⟨fields, rfl, type⟩ := typeName?_eq_some named
  have values : noteValues (.object fields) = itemsOf (field fields "notes" .null) := by
    simp only [noteValues, named]
    rfl
  have bare : untiedItem (.object fields) =
      .object (fields.map (changeField "notes" (each untied))) := by
    simp only [untiedItem, named]
    rfl
  have kind : field (fields.map (changeField "notes" (each untied))) "type" .null =
      .string "chord" := (field_changed_of_ne fields _ _ (by decide) _).trans type
  refine ⟨chordFrame room (field fields "notes" .null), ?_, ?_, ?_⟩
  · intro ties
    rw [values, readItem_chord type]
  · intro ties
    rw [values, bare, readItem_chord kind, field_changed fields _ _ rfl, chordFrame_each,
      itemsOf_each]
  · intro made notes same length
    unfold chordFrame at same
    split at same
    next => cases same
    next =>
      split at same
      next =>
        obtain ⟨left, -, same⟩ := except_bind_eq_ok.mp same
        cases same
        rfl
      next =>
        split at same
        next =>
          obtain ⟨left, -, refused⟩ := except_bind_eq_ok.mp same
          cases refused
        next => cases same

theorem framed_noteless {room : Nat} {item : Value} (result : Except LoadError Item)
    (values : noteValues item = []) (bare : untiedItem item = item)
    (read : ∀ ties, readItem room ties item = result.map (·, ties))
    (noteless : ∀ made, result = .ok made → made.notes = []) :
    Framed room item (result.map fun made => ⟨room, fun _ => made⟩) := by
  constructor
  · intro ties
    rw [read, values]
    cases result <;> rfl
  · intro ties
    rw [bare, read, values]
    cases result <;> rfl
  · intro made notes same length
    cases result with
    | error => cases same
    | ok item =>
      cases same
      rw [values] at length
      rw [noteless item rfl, List.length_eq_zero_iff.mp length]

/-- An item that has no notes. -/
def notelessItem (room : Nat) (name : LooseText) (fields : Fields) : Except LoadError Item :=
  if name = "bar" then return .bar (.line (← raising room (barLine fields)))
  else if name = "ending" then return .bar (.ending (← ending room fields))
  else if name = "key" then return .key (← raising room (key fields))
  else if name = "tempo" then return .tempo (← tempo room fields)
  else refuse room (.itemType (.string name))

private theorem notes_notelessItem {room : Nat} {name : LooseText} {fields : Fields} {made : Item}
    (read : notelessItem room name fields = .ok made) : made.notes = [] := by
  unfold notelessItem at read
  repeat' split at read
  case isFalse => cases read
  all_goals
    obtain ⟨content, -, read⟩ := except_bind_eq_ok.mp read
    cases read
    rfl

private theorem exists_framed_other (room : Nat) {item : Value} {name : LooseText}
    (named : typeName? item = some name) (single : ¬ (name = "note" ∨ name = "rest"))
    (chord : name ≠ "chord") : ∃ frame, Framed room item frame := by
  obtain ⟨fields, rfl, type⟩ := typeName?_eq_some named
  have kind : (name = "note" || name = "rest") = false := by simpa using single
  have values : noteValues (.object fields) = [] := by
    simp only [noteValues, named, kind, chord, Bool.false_eq_true, if_false]
  have bare : untiedItem (.object fields) = .object fields := by
    simp only [untiedItem, named, kind, chord, Bool.false_eq_true, if_false]
  refine ⟨_, framed_noteless (notelessItem room name fields) values bare (fun ties => ?_)
    fun made => notes_notelessItem⟩
  simp only [readItem, type, kind, chord, notelessItem, Bool.false_eq_true, if_false]
  split
  next => cases barLine fields <;> rfl
  next =>
    split
    next => cases ending room fields <;> rfl
    next =>
      split
      next => cases key fields <;> rfl
      next =>
        split
        next => cases tempo room fields <;> rfl
        next => rfl

private theorem exists_framed_unnamed (room : Nat) {item : Value} (named : typeName? item = none) :
    ∃ frame, Framed room item frame := by
  have values : noteValues item = [] := by simp only [noteValues, named]
  have bare : untiedItem item = item := by simp only [untiedItem, named]
  have refused : ∃ error, ∀ ties, readItem room ties item = .error error := by
    cases item with
    | null | bool | int | float | string | array => exact ⟨_, fun _ => rfl⟩
    | object fields =>
      cases type : field fields "type" .null with
      | string name =>
        rw [typeName?_of_field type] at named
        cases named
      | null | bool | int | float | array | object =>
        refine ⟨(FormatError.itemType (field fields "type" .null)).raised room, fun ties => ?_⟩
        simp only [readItem, type]
        rfl
  obtain ⟨error, refused⟩ := refused
  refine ⟨_, framed_noteless (.error error) values bare refused ?_⟩
  rintro made ⟨⟩

theorem exists_framed (room : Nat) (item : Value) : ∃ frame, Framed room item frame := by
  cases named : typeName? item with
  | none => exact exists_framed_unnamed room named
  | some name =>
    by_cases single : name = "note" ∨ name = "rest"
    · exact ⟨_, framed_single room named single⟩
    · by_cases chord : name = "chord"
      · subst chord
        exact exists_framed_chord room named
      · exact exists_framed_other room named single chord

section
variable {room : Nat} {ties after : Ties}

private theorem exists_reads_item {value : Value} {plain : Item} {markings : List Marking}
    (read : readItem room ties (untiedItem value) = .ok (plain, after))
    (marked : (noteValues value).mapM marking = some markings) :
    ∃ item, Reads ties.nextId after.nextId item.notes item (readItem room · value) ∧
      Described ties.nextId after.nextId markings plain.notes item.notes ∧
        after.links = ties.links := by
  obtain ⟨frame, framed⟩ := exists_framed room value
  rw [framed.untied] at read
  obtain ⟨frame, made, read⟩ := except_bind_eq_ok.mp read
  obtain ⟨⟨found, last⟩, read, same⟩ := except_bind_eq_ok.mp read
  cases same
  obtain ⟨notes, reads, described, length, links⟩ := exists_reads_notes read marked
  have bare := framed.notes frame found made length
  have within := framed.notes frame notes made (by
    rw [← length, ← described.unmarked, List.length_map])
  refine ⟨frame.make notes, ?_, ?_, links⟩
  · have whole : (readItem room · value) = fun ties => do
        let (notes, ties) ← readNotes frame.room ties false (noteValues value)
        return (frame.make notes, ties) := by
      funext ties
      rw [framed.read, made]
      rfl
    rw [whole, within]
    exact reads.map frame.make
  · rwa [within, bare]

theorem exists_reads_items {values : List Value} {plain : List Item} {markings : List Marking}
    (read : readItems room ties (values.map untiedItem) = .ok (plain, after))
    (marked : (values.flatMap noteValues).mapM marking = some markings) :
    ∃ items : List Item,
      Reads ties.nextId after.nextId (items.flatMap Item.notes) items (readItems room · values) ∧
        Described ties.nextId after.nextId markings (plain.flatMap Item.notes)
          (items.flatMap Item.notes) ∧
        after.links = ties.links := by
  induction values generalizing ties plain markings with
  | nil =>
    cases read
    cases marked
    exact ⟨[], .nothing _ _, .nil _, rfl⟩
  | cons value rest ih =>
    obtain ⟨⟨item, middle⟩, first, read⟩ := except_bind_eq_ok.mp read
    obtain ⟨⟨others, last⟩, more, read⟩ := except_bind_eq_ok.mp read
    cases read
    rw [List.flatMap_cons, List.mapM_append] at marked
    obtain ⟨said, here, marked⟩ := Option.bind_eq_some_iff.mp marked
    obtain ⟨later, there, marked⟩ := Option.bind_eq_some_iff.mp marked
    cases marked
    obtain ⟨item, reads, described, links⟩ := exists_reads_item first here
    obtain ⟨items, onward, ahead, same⟩ := ih more there
    refine ⟨item :: items, ?_, ?_, same.trans links⟩
    · rw [List.flatMap_cons]
      exact reads.both onward List.cons
    · rw [List.flatMap_cons, List.flatMap_cons]
      exact described.append ahead

end

/-! What is read with its ties can be read without them -/

section
variable {room : Nat} {ties after : Ties}

/-- Behind a first note that is read the others are read. -/
theorem readNotes_cons {value : Value} {note : Note}
    (first : readNote room ties false value = .ok (note, after)) (rest : List Value) :
    readNotes room ties false (value :: rest) = (do
      let (notes, ties) ← readNotes room after false rest
      return (note :: notes, ties)) := by
  rw [readNotes, first]
  rfl

theorem readItems_cons {value : Value} {item : Item}
    (first : readItem room ties value = .ok (item, after)) (rest : List Value) :
    readItems room ties (value :: rest) = (do
      let (items, ties) ← readItems room after rest
      return (item :: items, ties)) := by
  rw [readItems, first]
  rfl

private theorem exists_untied_notes {values : List Value} {notes : List Note}
    (read : readNotes room ties false values = .ok (notes, after)) (other : Ties)
    (same : other.nextId = ties.nextId) :
    ∃ plain markings, values.mapM marking = some markings ∧
      readNotes room other false (values.map untied) =
        .ok (plain, { other with nextId := after.nextId }) := by
  induction values generalizing ties other notes with
  | nil =>
    cases read
    refine ⟨[], [], rfl, ?_⟩
    rw [← same]
    rfl
  | cons value rest ih =>
    obtain ⟨⟨note, middle⟩, first, read⟩ := except_bind_eq_ok.mp read
    obtain ⟨⟨others, last⟩, more, read⟩ := except_bind_eq_ok.mp read
    cases read
    obtain ⟨plain, built, said, unmarked, here, marked⟩ := exists_marking first
    obtain ⟨-, -, again⟩ := readNote_numbers value room ties plain built unmarked
    have next := Ties.nextId_of_mark marked
    obtain ⟨plains, markings, there, later⟩ :=
      ih more { other with nextId := built.nextId } next.symm
    refine ⟨plain :: plains, said :: markings, ?_, ?_⟩
    · rw [List.mapM_cons, here, there]
      rfl
    · have start := readNote_untied.mpr (again other same)
      rw [List.map_cons, readNotes_cons start, later]
      rfl

private theorem exists_untied_item {value : Value} {item : Item}
    (read : readItem room ties value = .ok (item, after)) (other : Ties)
    (same : other.nextId = ties.nextId) :
    ∃ plain markings, (noteValues value).mapM marking = some markings ∧
      readItem room other (untiedItem value) =
        .ok (plain, { other with nextId := after.nextId }) := by
  obtain ⟨frame, framed⟩ := exists_framed room value
  rw [framed.read] at read
  obtain ⟨frame, made, read⟩ := except_bind_eq_ok.mp read
  obtain ⟨⟨notes, last⟩, read, finished⟩ := except_bind_eq_ok.mp read
  cases finished
  obtain ⟨plain, markings, marked, untied⟩ := exists_untied_notes read other same
  refine ⟨frame.make plain, markings, marked, ?_⟩
  rw [framed.untied, made]
  change (readNotes frame.room other false _ >>= _) = _
  rw [untied]
  rfl

theorem exists_untied_items {values : List Value} {items : List Item}
    (read : readItems room ties values = .ok (items, after)) (other : Ties)
    (same : other.nextId = ties.nextId) :
    ∃ plain markings, (values.flatMap noteValues).mapM marking = some markings ∧
      readItems room other (values.map untiedItem) =
        .ok (plain, { other with nextId := after.nextId }) := by
  induction values generalizing ties other items with
  | nil =>
    cases read
    refine ⟨[], [], rfl, ?_⟩
    rw [← same]
    rfl
  | cons value rest ih =>
    obtain ⟨⟨item, middle⟩, first, read⟩ := except_bind_eq_ok.mp read
    obtain ⟨⟨others, last⟩, more, read⟩ := except_bind_eq_ok.mp read
    cases read
    obtain ⟨plain, said, here, start⟩ := exists_untied_item first other same
    obtain ⟨plains, markings, there, later⟩ :=
      ih more { other with nextId := middle.nextId } rfl
    refine ⟨plain :: plains, said ++ markings, ?_, ?_⟩
    · rw [List.flatMap_cons, List.mapM_append, here, there]
      rfl
    · rw [List.map_cons, readItems_cons start, later]
      rfl

namespace Ties.Keeps
variable {past : List Note} (keeps : ties.Keeps past)
include keeps

theorem readNote {value : Value} {note : Note}
    (read : Document.readNote room ties false value = .ok (note, after)) :
    after.Keeps (past ++ [note]) := by
  obtain ⟨plain, middle, said, bare, marked, -⟩ := exists_marking read
  have outcome := reads_note bare marked past ties keeps rfl
  beta_reduce at outcome
  rw [read] at outcome
  cases outcome with
  | read closes keeps next => exact keeps

/-- What awaits an end behind the items that are read is what the ties among them leave. -/
theorem readItems {values : List Value} {items : List Item}
    (read : Document.readItems room ties values = .ok (items, after)) :
    after.Keeps (past ++ items.flatMap Item.notes) := by
  obtain ⟨plain, markings, marked, bare⟩ := exists_untied_items read ties rfl
  obtain ⟨same, reads, -⟩ := exists_reads_items bare marked
  have outcome := reads past ties keeps rfl
  beta_reduce at outcome
  rw [read] at outcome
  cases outcome with
  | read closes keeps next => exact keeps

end Ties.Keeps

end

/-! Documents -/

/-- The complaint about an end shows the note, so it can be made only where that can be written. -/
theorem refuse_tieEnd (room : Nat) (note : Note) :
    @refuse α room (.tieEnd note) =
      .error (if note.isWritable then .malformed (.tieEnd note) else .limit .digitsWritten) := by
  cases writable : note.isWritable with
  | false =>
    simp only [refuse, FormatError.raised, FormatError.limit?, Note.text_of_overlong writable,
      Bool.false_eq_true, if_false]
  | true =>
    obtain ⟨text, written⟩ := Note.exists_text writable
    simp only [refuse, FormatError.raised, FormatError.limit?, written, if_true]

theorem score_eq (room : Nat) {document : Value} {values : List Value}
    (listed : document.field? "items" = some (.array values)) : score room document = (do
      let inside ← enter room
      let (items, ties) ← readItems inside {} values
      return ⟨items.map ties.linkedItem⟩) := by
  rw [score, listed]

/-- Where there is room for the entries, the document is read as they are. -/
theorem score_of_entered {room inside : Nat} {document : Value} {values : List Value}
    (entered : enter room = .ok inside) (listed : document.field? "items" = some (.array values)) :
    score room document = (do
      let (items, ties) ← readItems inside {} values
      return ⟨items.map ties.linkedItem⟩) := by
  rw [score_eq room listed, entered]
  rfl

theorem exists_items {room : Nat} {document : Value} {loaded : Score}
    (read : score room document = .ok loaded) :
    ∃ inside values items ties, enter room = .ok inside ∧
      document.field? "items" = some (.array values) ∧
      readItems inside {} values = .ok (items, ties) ∧ loaded = ⟨items.map ties.linkedItem⟩ := by
  unfold score at read
  split at read
  next values listed =>
    obtain ⟨inside, entered, read⟩ := except_bind_eq_ok.mp read
    obtain ⟨⟨items, ties⟩, first, made⟩ := except_bind_eq_ok.mp read
    cases made
    exact ⟨inside, values, items, ties, entered, listed, first, rfl⟩
  next => cases read

theorem items_withoutTies (document : Value) : (withoutTies document).field? "items" =
    (document.field? "items").map (each untiedItem) := by
  cases document with
  | object fields =>
    change field? (fields.map (changeField "items" (each untiedItem))) "items" = _
    rw [field?_changed]
    rfl
  | null | bool | int | float | string | array => rfl

theorem Ties.notes_linkedItem (ties : Ties) (item : Item) :
    (ties.linkedItem item).notes = item.notes.map ties.linked := by
  cases item <;> rfl

/-- Where no links are made, notes that are in no tie stay as they are. -/
private theorem Ties.notes_linkedItems_of_untied {ties : Ties} (none : ties.links = [])
    {items : List Item}
    (untied : ∀ note ∈ items.flatMap Item.notes, note.Untied) :
    (items.map ties.linkedItem).flatMap Item.notes = items.flatMap Item.notes := by
  have unlinked : ∀ note ∈ items.flatMap Item.notes, ties.linked note = id note := by
    intro note member
    have leads := (untied note member).leads
    cases note
    cases leads
    rw [Ties.linked, none]
    rfl
  have same : (items.flatMap Item.notes).map ties.linked = items.flatMap Item.notes :=
    (List.map_congr_left unlinked).trans (List.map_id _)
  rw [← same]
  simp only [List.flatMap_map, List.map_flatMap, Ties.notes_linkedItem]

/-- A document that can be read without its tie fields, all of which say something, is read if and
only if its ties match, and else it is refused for the first end that is unmatched. -/
theorem score_cases {room : Nat} {document : Value} {plain : Score} {markings : List Marking}
    (otherwise : score room (withoutTies document) = .ok plain)
    (known : markings? document = some markings) :
    (¬ Matched markings ∧ ∃ stop note, FirstUnmatched markings stop ∧
      (plain.items.flatMap Item.notes)[stop]? = some note ∧
        score room document = refuse room (.tieEnd note)) ∨
    Matched markings ∧ ∃ items : List Item, ∃ ties : Ties,
      score room document = .ok ⟨items.map ties.linkedItem⟩ ∧
      Described 0 ties.nextId markings (plain.items.flatMap Item.notes)
        (items.flatMap Item.notes) ∧
      ties.Keeps (items.flatMap Item.notes) := by
  obtain ⟨inside, values, plainItems, last, entered, listed, read, rfl⟩ := exists_items otherwise
  rw [items_withoutTies, Option.map_eq_some_iff] at listed
  obtain ⟨list, listed, same⟩ := listed
  match list with
  | .null | .bool _ | .int _ | .float _ | .string _ | .object _ => cases same
  | .array values =>
    cases same
    rw [markings?, listed] at known
    obtain ⟨items, reads, described, links⟩ := exists_reads_items read known
    have bare := Ties.notes_linkedItems_of_untied links described.untied
    have outcome : Outcome [] (items.flatMap Item.notes) last.nextId items
        (readItems inside {} values) := reads [] {} (.empty 0) rfl
    rw [score_of_entered entered listed, bare]
    have matched : Closes [] (items.flatMap Item.notes) ↔ Matched markings := by
      rw [closes_iff_matched, described.markings]
    generalize readItems inside {} values = result at outcome ⊢
    cases outcome with
    | @refused before after note _ split closes unmatched =>
      refine .inl ⟨fun all => ?_, before.length, note.unmarked, ?_, ?_, rfl⟩
      · rw [← matched, split, ← List.singleton_append, ← List.append_assoc, closes_append] at all
        exact unmatched all.1
      · rw [← described.markings, split]
        exact firstUnmatched_of_closes after closes unmatched
      · rw [← described.unmarked, split, List.getElem?_map,
          List.getElem?_append_right (Nat.le_refl _), Nat.sub_self]
        rfl
    | @read ties closes keeps next =>
      rw [← next] at described
      exact .inr ⟨matched.mp closes, items, ties, rfl, described, keeps⟩

theorem exists_untied {room : Nat} {document : Value} {loaded : Score}
    (read : score room document = .ok loaded) :
    ∃ plain markings, score room (withoutTies document) = .ok plain ∧
      markings? document = some markings := by
  obtain ⟨inside, values, items, ties, entered, listed, read, -⟩ := exists_items read
  obtain ⟨plain, markings, known, untied⟩ := exists_untied_items read {} rfl
  refine ⟨⟨plain.map (Ties.linkedItem { nextId := ties.nextId })⟩, markings, ?_, ?_⟩
  · rw [score_of_entered entered (by rw [items_withoutTies, listed]; rfl), untied]
    rfl
  · rw [markings?, listed]
    exact known

end Document

end ScorePlayback
