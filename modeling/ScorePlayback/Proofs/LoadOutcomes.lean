import ScorePlayback.Proofs.EntryOutcomes

/-! What comes of reading a document: a score with an item for every entry, or a malformed document,
or, where the first entry that is not read has one of three shapes, an error of another kind. Where
the document is not nested too deeply, a limit is only met by the complaint about the end of a tie,
at a note that cannot be written. No room is enough for every document. -/

namespace ScorePlayback.Document

theorem readItems_append {room : Nat} {ties middle : Ties} {before : List Value}
    {items : List Item} (read : readItems room ties before = .ok (items, middle))
    (after : List Value) :
    readItems room ties (before ++ after) = (do
      let (more, ties) ← readItems room middle after
      return (items ++ more, ties)) := by
  induction before generalizing ties items with
  | nil =>
    cases read
    rw [List.nil_append]
    cases readItems room middle after <;> rfl
  | cons value rest ih =>
    obtain ⟨⟨item, next⟩, first, read⟩ := except_bind_eq_ok.mp read
    obtain ⟨⟨others, last⟩, more, read⟩ := except_bind_eq_ok.mp read
    cases read
    rw [List.cons_append, readItems_cons first, ih more]
    cases readItems room middle after <;> rfl

/-- The entries before one are read, and that one stops the reading. -/
def StopsAfter (room : Nat) (ties : Ties) (past : List Note) (values : List Value)
    (error : LoadError) : Prop :=
  ∃ before value after items next, values = before ++ value :: after ∧
    readItems room ties before = .ok (items, next) ∧
    Stops room next (past ++ items.flatMap Item.notes) value error

theorem readItems_settles {room : Nat} {ties : Ties} {past : List Note} (keeps : ties.Keeps past)
    (values : List Value) :
    Settles (fun read => List.Forall₂ ItemOf values read.1) (StopsAfter room ties past values)
      (readItems room ties values) := by
  induction values generalizing ties past with
  | nil => exact .read .nil
  | cons value rest ih =>
    rw [readItems]
    refine ((readItem_settles keeps value).exact.mono (fun _ => id) fun error stops => ?_).bind
      fun first described => ?_
    · refine ⟨[], value, rest, [], ties, rfl, rfl, ?_⟩
      rwa [List.flatMap_nil, List.append_nil]
    · obtain ⟨item, middle⟩ := first
      obtain ⟨described, read⟩ := described
      have single : readItems room ties [value] = .ok ([item], middle) := readItems_cons read []
      have kept := keeps.readItems single
      rw [List.flatMap_singleton] at kept
      refine ((ih kept).mono (fun _ => id) ?_).bind fun others more => .read (.cons described more)
      rintro error ⟨before, last, after, items, next, rfl, passed, stops⟩
      refine ⟨value :: before, last, after, item :: items, next, rfl, ?_, ?_⟩
      · rw [readItems_cons read, passed]
        rfl
      · rwa [List.flatMap_cons, ← List.append_assoc]

/-! Room -/

/-- The document of some entries alone. -/
def ofEntries (values : List Value) : Value := .object [("items", .array values)]

/-- A note with a grace note that has a grace note, and so on, so many levels deep. -/
def graceTower : Nat → Value
  | 0 => .object [("type", .string "note")]
  | depth + 1 => .object [("type", .string "note"), ("grace", .array [graceTower depth])]

private theorem readNote_graceTower_succ (depth room : Nat) (ties : Ties) :
    readNote room ties true (graceTower (depth + 1)) = (do
      let inside ← enter room
      let (note, ties) ← readNote inside ties true (graceTower depth)
      let whole : Note := { id := ties.nextId, grace := [note] }
      return (whole, { ties with nextId := ties.nextId + 1 })) := by
  have plain (value : Value) : noteFields [("type", .string "note"), ("grace", value)] =
      .ok ⟨0, none, quarterUnits, false, 0⟩ := rfl
  have named (value : Value) : letter [("type", .string "note"), ("grace", value)] = .ok .c := rfl
  have distinct : ("type" : LooseText) ≠ "grace" := by decide
  simp only [graceTower, readNote, plain, named, raising, Except.mapError, readGrace, distinct,
    if_true, if_false, readGraceValue, readNotes, bind_assoc, pure_bind]
  cases enter room with
  | error => rfl
  | ok inside => simp only [bind, Except.bind]

/-- Every level of grace notes takes two levels of room. -/
theorem readNote_graceTower (depth room : Nat) (ties : Ties) :
    (room < 2 * depth → readNote room ties true (graceTower depth) = .error (.limit .nesting)) ∧
    (2 * depth ≤ room → ∃ note after, readNote room ties true (graceTower depth) =
      .ok (note, after)) := by
  induction depth generalizing room ties with
  | zero => exact ⟨nofun, fun _ => ⟨_, _, rfl⟩⟩
  | succ depth ih =>
    rw [readNote_graceTower_succ]
    refine ⟨fun short => ?_, fun enough => ?_⟩
    · unfold enter
      split
      next => rfl
      next deeper =>
        change (readNote (room - 2) ties true (graceTower depth) >>= _) = _
        rw [(ih (room - 2) ties).1 (by omega)]
        rfl
    · obtain ⟨note, after, inside⟩ := (ih (room - 2) ties).2 (by omega)
      refine ⟨{ id := after.nextId, grace := [note] },
        { after with nextId := after.nextId + 1 }, ?_⟩
      rw [enter, if_neg (by omega)]
      change (readNote (room - 2) ties true (graceTower depth) >>= _) = _
      rw [inside]
      rfl

theorem readItem_graceTower (depth room : Nat) (ties : Ties) :
    readItem room ties (graceTower depth) = (do
      let (note, ties) ← readNote room ties true (graceTower depth)
      return (.note note, ties)) := by
  have tower : ∃ fields, graceTower depth = .object fields ∧
      field fields "type" .null = .string "note" ∧ field fields "tie" .null = .null := by
    cases depth with
    | zero => exact ⟨_, rfl, rfl, rfl⟩
    | succ depth => exact ⟨_, rfl, rfl, rfl⟩
  obtain ⟨fields, same, type, tie⟩ := tower
  simp only [same, readItem, type, decide_true, Bool.true_or, if_true, readNote_false, tie]
  cases read : readNote room ties true (.object fields) with
  | error => rfl
  | ok built =>
    obtain ⟨note, after⟩ := built
    obtain ⟨-, untied, -⟩ := readNote_numbers _ room ties _ _ read
    have unmarked := after.mark_absent (untied note List.mem_cons_self)
    simp only [TieMark.ofValue, raising, Except.mapError, bind, Except.bind, unmarked]

/-- A tower of grace notes is read where there are two levels of room for each of its own, and two
for the items. -/
theorem score_graceTower (depth room : Nat) :
    (room < 2 * depth + 2 →
      score room (ofEntries [graceTower depth]) = .error (.limit .nesting)) ∧
    (2 * depth + 2 ≤ room → ∃ loaded, score room (ofEntries [graceTower depth]) = .ok loaded) := by
  refine ⟨fun short => ?_, fun enough => ?_⟩
  · by_cases shallow : room < 2
    · rw [score_eq room rfl, enter, if_pos shallow]
      rfl
    · have entered : enter room = .ok (room - 2) := if_neg shallow
      rw [score_of_entered entered rfl, readItems, readItem_graceTower,
        (readNote_graceTower depth (room - 2) {}).1 (by omega)]
      rfl
  · obtain ⟨note, after, read⟩ := (readNote_graceTower depth (room - 2) {}).2 (by omega)
    have entered : enter room = .ok (room - 2) := if_neg (by omega)
    refine ⟨⟨[after.linkedItem (.note note)]⟩, ?_⟩
    rw [score_of_entered entered rfl, readItems, readItem_graceTower, read]
    rfl

/-! Documents -/

theorem ItemOf.linked {value : Value} {item : Item} (read : ItemOf value item) (ties : Ties) :
    ItemOf value (ties.linkedItem item) := by
  cases read with
  | note type described => exact .note type (described.linked ties)
  | chord type listed notes =>
    refine .chord type listed ?_
    exact List.forall₂_map_right_iff.mpr (notes.imp fun _ _ described => described.linked ties)
  | bar type read => exact .bar type read
  | ending type read => exact .ending type read
  | key type read => exact .key type read
  | tempo type read => exact .tempo type read

/-- The entries before one are read, and that one stops the reading in a way of its own. -/
def EscapesFirst (room : Nat) (document : Value) (error : LoadError) : Prop :=
  ∃ before value after, document.field? "items" = some (.array (before ++ value :: after)) ∧
    (∃ loaded, score room (ofEntries before) = .ok loaded) ∧ Escapes value error

/-- The first note that ends a tie which nothing awaits, behind entries that are read. -/
def RefusedFirst (room : Nat) (document : Value) (note : Note) : Prop :=
  ∃ inside before value after items ties, enter room = .ok inside ∧
    document.field? "items" = some (.array (before ++ value :: after)) ∧
    readItems inside {} before = .ok (items, ties) ∧
    Refused inside ties (items.flatMap Item.notes) value note

/-- How a document stops the reading if it is not malformed. -/
inductive Fails (room : Nat) (document : Value) : LoadError → Prop
  | escapes {error : LoadError} (escape : EscapesFirst room document error) :
      Fails room document error
  | exceeds {error : LoadError} (unfit : Exceeds room document error) : Fails room document error
  | refused {note : Note} (refused : RefusedFirst room document note)
      (overlong : note.isWritable = false) : Fails room document (.limit .digitsWritten)

theorem fits_of_items {room : Nat} {document : Value} {values : List Value}
    (fits : document.Fits room) (listed : document.field? "items" = some (.array values)) :
    3 ≤ room ∧ ∀ value ∈ values, value.Fits (room - 2) := by
  cases document with
  | null | bool | int | float | string | array => cases listed
  | object fields =>
    have same : field fields "items" .null = .array values := congrArg (·.getD .null) listed
    exact ⟨three_le_room fits, fits_of_listed fits rfl same⟩

/-- How an entry stops the reading is how it stops that of the document. -/
theorem StopsAfter.fails {room inside : Nat} {document : Value} {values : List Value}
    {error : LoadError} (entered : enter room = .ok inside) (deeper : inside = room - 2)
    (listed : document.field? "items" = some (.array values))
    (stops : StopsAfter inside {} [] values error) : Fails room document error := by
  obtain ⟨before, value, after, items, next, rfl, passed, stops⟩ := stops
  cases stops with
  | escapes escape =>
    refine .escapes ⟨before, value, after, listed, ⟨⟨items.map next.linkedItem⟩, ?_⟩, escape⟩
    rw [score_of_entered entered rfl, passed]
    rfl
  | exceeds unfit =>
    refine .exceeds ⟨fun fits => unfit.1 ?_, unfit.2⟩
    rw [deeper]
    exact (fits_of_items fits listed).2 value (List.mem_append_right before List.mem_cons_self)
  | refused refused overlong =>
    rw [List.nil_append] at refused
    exact .refused ⟨inside, before, value, after, items, next, entered, listed, passed, refused⟩
      overlong

private theorem score_settles (room : Nat) (document : Value) :
    Settles (fun loaded => ∃ values, document.field? "items" = some (.array values) ∧
      List.Forall₂ ItemOf values loaded.items) (Fails room document) (score room document) := by
  unfold score
  split
  next values listed =>
    refine ((enter_settles room).exact.mono (fun _ => id) ?_).bind fun inside entered => ?_
    · rintro error ⟨short, rfl⟩
      refine .exceeds ⟨fun fits => ?_, _, rfl⟩
      have := (fits_of_items fits listed).1
      omega
    · obtain ⟨⟨-, deeper⟩, entered⟩ := entered
      refine ((readItems_settles (.empty 0) values).mono (fun _ => id) fun error stops =>
        stops.fails entered deeper listed).bind fun read fit => ?_
      refine .read ⟨values, listed, List.forall₂_map_right_iff.mpr ?_⟩
      exact fit.imp fun _ _ described => described.linked read.2
  next => exact .malformed .noItems

private theorem score_of_escapes {room : Nat} {document : Value} {error : LoadError}
    (escapes : EscapesFirst room document error) : score room document = .error error := by
  obtain ⟨before, value, after, listed, ⟨loaded, read⟩, escape⟩ := escapes
  obtain ⟨inside, values, items, ties, entered, same, passed, -⟩ := exists_items read
  cases same
  rw [score_of_entered entered listed, readItems_append passed, readItems,
    readItem_of_escapes escape]
  rfl

private theorem score_of_refused {room : Nat} {document : Value} {note : Note}
    (refused : RefusedFirst room document note) :
    score room document = refuse room (.tieEnd note) := by
  obtain ⟨inside, before, value, after, items, ties, entered, listed, read, refused⟩ := refused
  have keeps := (Ties.Keeps.empty 0).readItems read
  rw [score_of_entered entered listed, readItems_append read, readItems,
    readItem_of_refused keeps refused]
  rfl

/-- A document is read as a score with an item for every entry, each of the kind that its type names
and with its notes as described, or it is malformed, or else its first entry that is not read is of
one of the shapes that stop the reading in a way of their own. Where the document fits, the only
limit that is met is that of the complaint about the end of a tie. No room is enough for every
document. -/
theorem score_outcomes (room : Nat) (document : Value) :
    (∀ loaded, score room document = .ok loaded → ∃ values,
      document.field? "items" = some (.array values) ∧ List.Forall₂ ItemOf values loaded.items) ∧
    (∀ error, (∀ cause, error ≠ .malformed cause) → (∀ limit, error ≠ .limit limit) →
      (score room document = .error error ↔ EscapesFirst room document error)) ∧
    (document.Fits room → ∀ limit, score room document = .error (.limit limit) ↔
      limit = .digitsWritten ∧ ∃ note, RefusedFirst room document note ∧
        note.isWritable = false) ∧
    ∃ deeper more loaded, score room deeper = .error (.limit .nesting) ∧
      score more deeper = .ok loaded := by
  have settles := score_settles room document
  refine ⟨fun loaded read => ?_, fun error other unlimited => ⟨fun failed => ?_, score_of_escapes⟩,
    fun fits limit => ⟨fun failed => ?_, ?_⟩, ?_⟩
  · rw [read] at settles
    cases settles with
    | read fit => exact fit
  · rw [failed] at settles
    cases settles with
    | malformed cause => exact absurd rfl (other cause)
    | escaped fails =>
      cases fails with
      | escapes escape => exact escape
      | exceeds unfit =>
        obtain ⟨-, limit, same⟩ := unfit
        exact absurd same (unlimited limit)
      | refused => exact absurd rfl (unlimited .digitsWritten)
  · rw [failed] at settles
    cases settles with
    | escaped fails =>
      cases fails with
      | escapes escapes =>
        obtain ⟨before, value, after, -, -, escape⟩ := escapes
        cases escape
      | exceeds unfit => exact absurd fits unfit.1
      | refused refused overlong => exact ⟨rfl, _, refused, overlong⟩
  · rintro ⟨rfl, note, refused, overlong⟩
    rw [score_of_refused refused, refuse_tieEnd, overlong]
    rfl
  · obtain ⟨loaded, read⟩ := (score_graceTower room (2 * room + 2)).2 (Nat.le_refl _)
    exact ⟨_, _, loaded, (score_graceTower room room).1 (by omega), read⟩

/-- A bar line, a chord whose notes are a truth value, and an item of no known type. -/
def unlistedChord : Value := ofEntries [.object [("type", .string "bar")],
  .object [("type", .string "chord"), ("notes", .bool true)],
  .object [("type", .string "glissando")]]

theorem score_unlistedChord : score 6 unlistedChord = .error (.chordNotes (.bool true)) := by
  refine ((score_outcomes 6 unlistedChord).2.1 (.chordNotes (.bool true)) nofun nofun).mpr ?_
  exact ⟨[_], _, [_], rfl, ⟨⟨[.bar (.line .simple)]⟩, rfl⟩, .chord rfl rfl⟩

/-- A rest that ends a tie which nothing begins, and that is too long to be written. -/
def overlongRest : Value := ofEntries [.object [("type", .string "rest"),
  ("duration", .string "1e5000"), ("tie", .string "continue")]]

/-- The shapes of entries are not all that stops the reading of a document that fits. -/
theorem score_overlongRest :
    ¬ ∀ (room : Nat) (document : Value) (error : LoadError), document.Fits room →
      score room document = .error error →
      (∃ cause, error = .malformed cause) ∨ EscapesFirst room document error := by
  intro claim
  have limited : (match score 6 overlongRest with
      | .error (.limit limit) => limit == .digitsWritten
      | _ => false) = true := by decide +kernel
  split at limited
  next limit failed =>
    rcases claim 6 overlongRest (.limit limit) rfl failed with ⟨cause, same⟩ | escapes
    · cases same
    · obtain ⟨before, value, after, -, -, escape⟩ := escapes
      cases escape
  next => cases limited

end ScorePlayback.Document
