import ScorePlayback.Proofs.TieMarks

/-! Notes read without their tie fields. Reading numbers the notes one by one, each after its grace
notes, and apart from the next number it neither needs nor changes what is known of the ties. -/

namespace ScorePlayback

namespace Note

/-- Whether a note is in no tie. -/
structure Untied (note : Note) : Prop where
  begins : note.beginsTie = false
  ends : note.endsTie = false
  leads : note.tiedTo = none

mutual

/-- A note after its grace notes, theirs before them. -/
def family : Note → List Note
  | ⟨id, letter, octave, accidental, duration, isRest, transposition, begins, ends, tied, grace⟩ =>
    families grace ++
      [⟨id, letter, octave, accidental, duration, isRest, transposition, begins, ends, tied, grace⟩]

def families : List Note → List Note
  | [] => []
  | note :: rest => note.family ++ families rest

end

theorem family_eq (note : Note) : note.family = families note.grace ++ [note] := by
  cases note
  rfl

theorem families_append (first second : List Note) :
    families (first ++ second) = families first ++ families second := by
  induction first with
  | nil => rfl
  | cons note rest ih => rw [List.cons_append, families, families, ih, List.append_assoc]

theorem families_single (note : Note) : families [note] = families note.grace ++ [note] := by
  rw [families, family_eq, families, List.append_nil]

private theorem mem_families {notes : List Note} {other : Note} :
    other ∈ families notes ↔ ∃ note ∈ notes, other ∈ families note.grace ∨ other = note := by
  induction notes with
  | nil => simp [families]
  | cons note rest ih =>
    simp only [families, family_eq, List.mem_append, List.mem_singleton, ih,
      List.exists_mem_cons_iff]

/-- Notes with the numbers from one on, where the grace notes are in no tie. -/
structure Numbered (first last : Nat) (notes : List Note) : Prop where
  forward : first ≤ last
  ids : (families notes).map Note.id = List.range' first (last - first)
  grace : ∀ note ∈ notes, ∀ other ∈ families note.grace, other.Untied

namespace Numbered

theorem nil (first : Nat) : Numbered first first [] where
  forward := Nat.le_refl first
  ids := by rw [Nat.sub_self]; rfl
  grace := nofun

theorem append {first middle last : Nat} {before after : List Note}
    (start : Numbered first middle before) (rest : Numbered middle last after) :
    Numbered first last (before ++ after) where
  forward := Nat.le_trans start.forward rest.forward
  ids := by
    have lengths : last - first = (middle - first) + (last - middle) := by
      have := start.forward
      have := rest.forward
      omega
    have onward : middle = first + 1 * (middle - first) := by
      have := start.forward
      omega
    rw [families_append, List.map_append, start.ids, rest.ids, lengths, ← List.range'_append]
    rw [← onward]
  grace := by
    intro note member
    rcases List.mem_append.mp member with inside | inside
    · exact start.grace note inside
    · exact rest.grace note inside

theorem single {first last : Nat} {note : Note} (grace : Numbered first last note.grace)
    (untied : ∀ other ∈ note.grace, other.Untied) (id : note.id = last) :
    Numbered first (last + 1) [note] where
  forward := Nat.le_succ_of_le grace.forward
  ids := by
    have count : last + 1 - first = last - first + 1 := Nat.succ_sub grace.forward
    have onward : first + 1 * (last - first) = last := by
      have := grace.forward
      omega
    rw [families_single, List.map_append, grace.ids, count, List.range'_concat, onward,
      List.map_singleton, id]
  grace := by
    intro other member
    obtain rfl := List.mem_singleton.mp member
    intro inner inside
    obtain ⟨grown, here, deeper | rfl⟩ := mem_families.mp inside
    · exact grace.grace grown here inner deeper
    · exact untied inner here

theorem marked {first last : Nat} {note : Note} (numbered : Numbered first last [note])
    (mark : Document.TieMark) : Numbered first last [note.marked mark] where
  forward := numbered.forward
  ids := by
    rw [← numbered.ids, families_single, families_single, List.map_append, List.map_append]
    rfl
  grace := by
    intro other member
    obtain rfl := List.mem_singleton.mp member
    exact numbered.grace note List.mem_cons_self

end Numbered

end Note

namespace Document

/-- A reading that numbers notes which are in no tie, and for which only the next number counts. -/
def Numbers (notes : α → List Note) (read : Ties → Except LoadError (α × Ties)) : Prop :=
  ∀ ties value after, read ties = .ok (value, after) →
    Note.Numbered ties.nextId after.nextId (notes value) ∧
    (∀ note ∈ notes value, note.Untied) ∧
    ∀ other : Ties, other.nextId = ties.nextId →
      read other = .ok (value, { other with nextId := after.nextId })

theorem Numbers.nothing {notes : α → List Note} {value : α} (none : notes value = []) :
    Numbers notes fun ties => .ok (value, ties) := by
  intro ties read after same
  cases same
  rw [none]
  refine ⟨.nil _, nofun, fun other next => ?_⟩
  rw [← next]

theorem Numbers.never {notes : α → List Note} (error : LoadError) :
    Numbers notes fun _ => .error error := nofun

/-- What is read further down is read where there is room for it. -/
theorem Numbers.entered {notes : α → List Note} {read : Nat → Ties → Except LoadError (α × Ties)}
    (inside : ∀ room, Numbers notes (read room)) (room : Nat) :
    Numbers notes fun ties => enter room >>= (read · ties) := by
  unfold enter
  split
  next => exact .never _
  next => exact inside _

theorem parts_numbers (room : Nat) (data value : Value) : Numbers id fun ties =>
    match value.parts? with
    | some [] => .ok ([], ties)
    | some (first :: _) => do refuse (← enter room) (notNote first)
    | none => refuse room (.note data (.notIterable value)) := by
  match value.parts? with
  | some [] => exact .nothing rfl
  | some (first :: _) =>
    have never (room : Nat) : Numbers id fun _ => refuse room (notNote first) := .never _
    exact .entered never room
  | none => exact .never _

/-! The grace notes of a note are read before its own number is given out, so the proof goes along
with the recursion of the readers, and the numbers of one reading begin where the last one ended. -/

mutual

theorem readNote_numbers (value : Value) (room : Nat) :
    Numbers ([·]) fun ties => readNote room ties true value :=
  match value with
  | .object fields => by
    intro ties note after read
    simp only [readNote] at read ⊢
    obtain ⟨plain, checked, read⟩ := except_bind_eq_ok.mp read
    obtain ⟨⟨grace, built⟩, graced, read⟩ := except_bind_eq_ok.mp read
    obtain ⟨letter, lettered, read⟩ := except_bind_eq_ok.mp read
    obtain ⟨numbered, untied, others⟩ :=
      readGrace_numbers (.object fields) fields room ties _ _ graced
    cases read
    refine ⟨.single numbered untied rfl, ?_, ?_⟩
    · intro note member
      obtain rfl := List.mem_singleton.mp member
      exact ⟨rfl, rfl, rfl⟩
    · intro other same
      have again : readGrace room other (.object fields) fields =
          .ok (grace, { other with nextId := built.nextId }) := others other same
      rw [checked, lettered]
      simp only [again, bind, Except.bind]
      rfl
  | .null | .bool _ | .int _ | .float _ | .string _ | .array _ => Numbers.never _
  termination_by structural value

theorem readGrace_numbers (data : Value) (fields : Fields) (room : Nat) :
    Numbers id fun ties => readGrace room ties data fields :=
  match fields with
  | [] => Numbers.nothing rfl
  | (key, value) :: rest => by
    simp only [readGrace]
    split
    next => exact readGraceValue_numbers data value room
    next => exact readGrace_numbers data rest room
  termination_by structural fields

theorem readGraceValue_numbers (data value : Value) (room : Nat) :
    Numbers id fun ties => readGraceValue room ties data value :=
  match value with
  | .array items => by
    simp only [readGraceValue]
    exact .entered (readNotes_numbers items) room
  | .null => parts_numbers room data .null
  | .bool flag => parts_numbers room data (.bool flag)
  | .int number => parts_numbers room data (.int number)
  | .float number => parts_numbers room data (.float number)
  | .string text => parts_numbers room data (.string text)
  | .object fields => parts_numbers room data (.object fields)
  termination_by structural value

theorem readNotes_numbers (values : List Value) (room : Nat) :
    Numbers id fun ties => readNotes room ties true values :=
  match values with
  | [] => Numbers.nothing rfl
  | value :: rest => by
    intro ties notes after read
    simp only [readNotes] at read ⊢
    obtain ⟨⟨note, middle⟩, first, read⟩ := except_bind_eq_ok.mp read
    obtain ⟨⟨others, last⟩, more, read⟩ := except_bind_eq_ok.mp read
    cases read
    obtain ⟨numbered, untied, again⟩ := readNote_numbers value room ties _ _ first
    obtain ⟨onward, free, later⟩ := readNotes_numbers rest room middle _ _ more
    refine ⟨numbered.append onward, ?_, fun other same => ?_⟩
    · intro tested member
      rcases List.mem_cons.mp member with rfl | inside
      · exact untied tested List.mem_cons_self
      · exact free tested inside
    · have here : readNote room other true value =
          .ok (note, { other with nextId := middle.nextId }) := again other same
      have there : readNotes room { other with nextId := middle.nextId } true rest =
          .ok (others, { other with nextId := last.nextId }) := later _ rfl
      simp only [here, there, bind, Except.bind]
      rfl
  termination_by structural values

end

/-! Tie fields -/

/-- A note's value without its tie field. -/
def untied : Value → Value
  | .object fields => .object (fields.filter (·.1 != "tie"))
  | value => value

/-- What the fields of a note say of its tie. -/
def marking : Value → Option Marking
  | .object fields => do
    let letter ← (letter fields).toOption
    let octave ← (wholeNumber fields "octave").toOption
    let mark ← (TieMark.ofValue (field fields "tie" .null)).toOption
    return ⟨(letter, octave), mark⟩
  | _ => none

section Untied
variable (fields : Fields)

theorem field_untied (key : LooseText) (other : key ≠ "tie") (absent : Value) :
    field (fields.filter (·.1 != "tie")) key absent = field fields key absent := by
  rw [field, field?, lookup_filter_ne, if_neg other]
  rfl

theorem noteFields_untied : noteFields (fields.filter (·.1 != "tie")) = noteFields fields := by
  simp only [noteFields, wholeNumber, field_untied fields "octave" (by decide),
    field_untied fields "accidental" (by decide), field_untied fields "duration" (by decide),
    field_untied fields "transpose" (by decide), field_untied fields "type" (by decide)]

theorem letter_untied : letter (fields.filter (·.1 != "tie")) = letter fields := by
  simp only [letter, field_untied fields "pitch" (by decide)]

theorem tie_untied : field (fields.filter (·.1 != "tie")) "tie" .null = .null := by
  rw [field, field?, lookup_filter_ne, if_pos rfl]
  rfl

end Untied

theorem readGrace_eq (room : Nat) (ties : Ties) (data : Value) (fields : Fields) :
    readGrace room ties data fields =
      ((field? fields "grace").map (readGraceValue room ties data)).getD (.ok ([], ties)) := by
  induction fields with
  | nil => rfl
  | cons field rest ih =>
    obtain ⟨key, value⟩ := field
    rw [readGrace, field?, lookup_cons_ite, ih]
    by_cases same : key = "grace"
    · rw [if_pos same, if_pos same.symm]
      rfl
    · rw [if_neg same, if_neg (Ne.symm same)]
      rfl

/-- The value that messages show is of no matter to a reading that succeeds. -/
theorem readGraceValue_eq_ok {room : Nat} {ties : Ties} {data other value : Value}
    {read : List Note × Ties} (succeeds : readGraceValue room ties data value = .ok read) :
    readGraceValue room ties other value = .ok read := by
  match value with
  | .array items => exact succeeds
  | .null | .bool _ | .int _ | .float _ | .string _ | .object _ =>
    simp only [readGraceValue] at succeeds ⊢
    generalize Value.parts? _ = parts at succeeds ⊢
    match parts with
    | none => cases succeeds
    | some [] => exact succeeds
    | some (_ :: _) => exact succeeds

private theorem readGrace_untied (room : Nat) (ties : Ties) (data other : Value) (fields : Fields)
    (read : List Note × Ties) :
    readGrace room ties data (fields.filter (·.1 != "tie")) = .ok read ↔
      readGrace room ties other fields = .ok read := by
  have same : field? (fields.filter (·.1 != "tie")) "grace" = field? fields "grace" := by
    rw [field?, lookup_filter_ne, if_neg (by decide)]
    rfl
  rw [readGrace_eq, readGrace_eq, same]
  cases field? fields "grace" with
  | none => exact Iff.rfl
  | some value => exact ⟨readGraceValue_eq_ok, readGraceValue_eq_ok⟩

theorem readNote_false (room : Nat) (ties : Ties) (fields : Fields) :
    readNote room ties false (.object fields) = (do
      let (note, ties) ← readNote room ties true (.object fields)
      let mark ← raising room (TieMark.ofValue (field fields "tie" .null))
      raising room (ties.mark mark note)) := by
  simp only [readNote, bind_assoc, Bool.false_eq_true, if_false, if_true, pure_bind]

theorem Ties.mark_absent (ties : Ties) {note : Note} (untied : note.Untied) :
    ties.mark .absent note = .ok (note, ties) := by
  have same : ({ note with beginsTie := false, endsTie := false } : Note) = note := by
    cases note
    cases untied.begins
    cases untied.ends
    rfl
  exact congrArg (fun kept => Except.ok (kept, ties)) same

private theorem readNote_true_untied {room : Nat} {ties : Ties} {fields : Fields}
    {read : Note × Ties} :
    readNote room ties true (untied (.object fields)) = .ok read ↔
      readNote room ties true (.object fields) = .ok read := by
  simp only [untied, readNote, raising, noteFields_untied, letter_untied, except_bind_eq_ok,
    except_mapError_eq_ok, if_true, Prod.exists, readGrace_untied room ties _ (.object fields)]

theorem readNote_untied {room : Nat} {ties : Ties} {value : Value} {read : Note × Ties} :
    readNote room ties false (untied value) = .ok read ↔
      readNote room ties true value = .ok read := by
  match value with
  | .null | .bool _ | .int _ | .float _ | .string _ | .array _ => exact ⟨nofun, nofun⟩
  | .object fields =>
    rw [untied, readNote_false, tie_untied, ← readNote_true_untied, untied]
    cases plain : readNote room ties true (.object (fields.filter (·.1 != "tie"))) with
    | error => exact Iff.rfl
    | ok built =>
      obtain ⟨note, after⟩ := built
      obtain ⟨-, untied, -⟩ := readNote_numbers _ room ties _ _ plain
      have unmarked := after.mark_absent (untied note List.mem_cons_self)
      change raising room (after.mark .absent note) = _ ↔ _
      rw [unmarked]
      exact Iff.rfl

theorem marking_eq {room : Nat} {ties after : Ties} {fields : Fields} {plain : Note}
    (read : readNote room ties true (.object fields) = .ok (plain, after)) :
    marking (.object fields) =
      (TieMark.ofValue (field fields "tie" .null)).toOption.map (⟨plain.place, ·⟩) := by
  simp only [readNote] at read
  obtain ⟨checked, fine, read⟩ := except_bind_eq_ok.mp read
  obtain ⟨grace, -, read⟩ := except_bind_eq_ok.mp read
  obtain ⟨letter, lettered, read⟩ := except_bind_eq_ok.mp read
  obtain ⟨octave, whole, fine⟩ := except_bind_eq_ok.mp (except_mapError_eq_ok.mp fine)
  obtain ⟨accidental, -, fine⟩ := except_bind_eq_ok.mp fine
  obtain ⟨duration, -, fine⟩ := except_bind_eq_ok.mp fine
  obtain ⟨transposition, -, fine⟩ := except_bind_eq_ok.mp fine
  cases fine
  cases read
  have lettered := except_mapError_eq_ok.mp (except_mapError_eq_ok.mp lettered)
  simp only [marking, lettered, whole]
  cases TieMark.ofValue (field fields "tie" .null) <;> rfl

/-- A note is read as it is without its tie field, and then marked. -/
theorem readNote_of_marking {room : Nat} {ties after : Ties} {value : Value} {plain : Note}
    {said : Marking} (read : readNote room ties true value = .ok (plain, after))
    (marked : marking value = some said) :
    plain.place = said.place ∧
      readNote room ties false value = raising room (after.mark said.mark plain) := by
  match value with
  | .null | .bool _ | .int _ | .float _ | .string _ | .array _ => cases read
  | .object fields =>
    rw [marking_eq read, Option.map_eq_some_iff] at marked
    obtain ⟨mark, known, rfl⟩ := marked
    rw [readNote_false, read, except_eq_ok_of_toOption known]
    exact ⟨rfl, rfl⟩

theorem exists_marking {room : Nat} {ties after : Ties} {value : Value} {note : Note}
    (read : readNote room ties false value = .ok (note, after)) :
    ∃ plain middle said, readNote room ties true value = .ok (plain, middle) ∧
      marking value = some said ∧ middle.mark said.mark plain = .ok (note, after) := by
  match value with
  | .null | .bool _ | .int _ | .float _ | .string _ | .array _ => cases read
  | .object fields =>
    rw [readNote_false] at read
    obtain ⟨⟨plain, middle⟩, first, read⟩ := except_bind_eq_ok.mp read
    obtain ⟨mark, known, read⟩ := except_bind_eq_ok.mp read
    have known := except_mapError_eq_ok.mp known
    refine ⟨plain, middle, ⟨plain.place, mark⟩, first, ?_, except_mapError_eq_ok.mp read⟩
    rw [marking_eq first, known]
    rfl

end Document

end ScorePlayback
