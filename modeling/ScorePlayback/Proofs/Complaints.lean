import ScorePlayback.Proofs.NoteReading

/-! Complaints that can be made. Every complaint about an entry shows the entry or one of its
fields, so where the entry is nested two levels less deeply than there is room for, and its numbers
can be written, no complaint about it meets a limit. -/

namespace ScorePlayback

namespace Value
variable {room : Nat}

private theorem itemsLimit?_eq_none {items : List Value} :
    itemsLimit? room items = none ↔ ∀ item ∈ items, item.limit? room = none := by
  induction items with
  | nil => simp [itemsLimit?]
  | cons item rest ih => rw [itemsLimit?, Option.or_eq_none_iff, ih, List.forall_mem_cons]

private theorem fieldsLimit?_eq_none {fields : List (LooseText × Value)} :
    fieldsLimit? room fields = none ↔ ∀ field ∈ fields, field.2.limit? room = none := by
  induction fields with
  | nil => simp [fieldsLimit?]
  | cons field rest ih =>
    obtain ⟨key, value⟩ := field
    rw [fieldsLimit?, Option.or_eq_none_iff, ih, List.forall_mem_cons]

theorem limit?_array_eq_none {items : List Value} :
    (array items).limit? room = none ↔
      0 < room ∧ ∀ item ∈ items, item.limit? (room - 1) = none := by
  rw [limit?]
  split
  next none => simp [none]
  next some => rw [itemsLimit?_eq_none, and_iff_right (Nat.pos_of_ne_zero some)]

theorem limit?_object_eq_none {fields : List (LooseText × Value)} :
    (object fields).limit? room = none ↔
      0 < room ∧ ∀ field ∈ fields, field.2.limit? (room - 1) = none := by
  rw [limit?]
  split
  next none => simp [none]
  next some => rw [fieldsLimit?_eq_none, and_iff_right (Nat.pos_of_ne_zero some)]

theorem limit?_int {number : Int} (writable : isWritable number = true) :
    (int number).limit? room = none := by
  rw [limit?, if_pos writable]

/-- A value that can be written can be written with more room. -/
theorem limit?_mono {value : Value} {room more : Nat} (enough : room ≤ more)
    (written : value.limit? room = none) : value.limit? more = none := by
  have less := Nat.sub_le_sub_right enough 1
  cases value with
  | null | bool | float | string => rfl
  | int => simpa only [limit?] using written
  | array items =>
    obtain ⟨deep, within⟩ := limit?_array_eq_none.mp written
    exact limit?_array_eq_none.mpr ⟨Nat.lt_of_lt_of_le deep enough, fun item member =>
      limit?_mono less (within item member)⟩
  | object fields =>
    obtain ⟨deep, within⟩ := limit?_object_eq_none.mp written
    exact limit?_object_eq_none.mpr ⟨Nat.lt_of_lt_of_le deep enough, fun field member =>
      limit?_mono less (within field member)⟩
termination_by sizeOf value
decreasing_by
  · have smaller := List.sizeOf_lt_of_mem member
    subst_vars
    simp only [array.sizeOf_spec]
    omega
  · have smaller := List.sizeOf_lt_of_mem member
    obtain ⟨key, inside⟩ := field
    subst_vars
    simp only [Prod.mk.sizeOf_spec] at smaller
    simp only [object.sizeOf_spec]
    omega

/-- A value that can be written where there are two levels less: reading a list goes two levels
down, to the items of it, and so does writing the object that it is a field of. -/
def Fits (room : Nat) (value : Value) : Prop := value.limit? (room - 2) = none

theorem Fits.written {value : Value} (fits : value.Fits room) : value.limit? room = none :=
  limit?_mono (Nat.sub_le room 2) fits

end Value

theorem FormatError.limit?_of_shown {error : FormatError} {value : Value}
    (shown : error.shown? = some value) (room : Nat) : error.limit? room = value.limit? room := by
  cases error with
  | tieEnd => cases shown
  | _ => exact congrArg (Option.bind · (Value.limit? room)) shown

namespace Document
variable {room : Nat} {fields : Fields}

section
variable (fits : (Value.object fields).Fits room)
include fits

theorem three_le_room : 3 ≤ room := by
  have deep := (Value.limit?_object_eq_none.mp fits).1
  omega

theorem limit?_field (key : LooseText) {absent : Value} {left : Nat} (enough : room - 3 ≤ left)
    (written : absent.limit? left = none) : (field fields key absent).limit? left = none := by
  rw [field, field?]
  cases found : fields.lookup key with
  | none => exact written
  | some value =>
    obtain ⟨before, after, split, -⟩ := List.lookup_eq_some_iff.mp found
    refine Value.limit?_mono enough ?_
    exact (Value.limit?_object_eq_none.mp fits).2 (key, value) (by rw [split]; simp)

/-- What is in a list fits into the room among its items. -/
theorem fits_of_listed {key : LooseText} {absent : Value} {items : List Value}
    (plain : absent.limit? (room - 3) = none) (listed : field fields key absent = .array items) :
    ∀ item ∈ items, item.Fits (room - 2) := by
  have within := limit?_field fits key (Nat.le_refl _) plain
  rw [listed] at within
  exact (Value.limit?_array_eq_none.mp within).2

end

/-- A reading whose complaints can be made if the value that is read fits. -/
def Complains (room : Nat) (value : Value) (result : Except FormatError α) : Prop :=
  ∀ error, result = .error error → value.Fits room → error.limit? room = none

namespace Complains
variable {value : Value}

theorem never (read : α) : Complains room value (.ok read) := nofun

theorem bind {first : Except FormatError α} {next : α → Except FormatError β}
    (start : Complains room value first) (rest : ∀ read, Complains room value (next read)) :
    Complains room value (first >>= next) := by
  intro error failed fits
  cases first with
  | error cause =>
    cases failed
    exact start error rfl fits
  | ok read => exact rest read error failed fits

/-- The value itself is shown. -/
theorem wrapped (result : Except ε α) {make : ε → FormatError}
    (shown : ∀ cause, (make cause).shown? = some value) :
    Complains room value (result.mapError make) := by
  intro error failed fits
  cases result with
  | ok => cases failed
  | error cause =>
    cases failed
    rw [FormatError.limit?_of_shown (shown cause) room]
    exact fits.written

/-- A field of the value is shown, or what stands for it where it is absent. -/
theorem field {key : LooseText} {absent : Value} {error : FormatError}
    (plain : absent.limit? room = none)
    (shown : error.shown? = some (Document.field fields key absent)) :
    @Complains α room (.object fields) (.error error) := by
  intro _ failed fits
  cases failed
  rw [FormatError.limit?_of_shown shown room]
  exact limit?_field fits key (Nat.sub_le room 3) plain

end Complains

theorem wholeNumber_complains (fields : Fields) (key : String) :
    Complains room (.object fields) (wholeNumber fields key) := by
  unfold wholeNumber
  split
  next => exact .never _
  next =>
    have zero : isWritable 0 = true := isWritable_of_lt (show 1 ≤ maxDigits by decide) (by decide)
    exact .field (Value.limit?_int zero) rfl

private theorem accidental_complains (fields : Fields) :
    Complains room (.object fields) (accidental (field fields "accidental" .null)) := by
  unfold accidental
  split
  next => exact .never none
  next =>
    split
    next => exact .never _
    next => exact .field rfl rfl

theorem units_complains (fields : Fields) (key : String) :
    Complains room (.object fields) (units (field fields key (.int quarterUnits))) := by
  have plain : (Value.int quarterUnits).limit? room = none :=
    Value.limit?_int (isWritable_of_lt (show 2 ≤ maxDigits by decide) (by decide))
  unfold units
  split
  next count =>
    split
    next => exact .field plain rfl
    next => exact .never _
  next text =>
    split
    next => exact .field plain rfl
    next =>
      dsimp only
      split_ifs
      · exact .field plain rfl
      · exact .field plain rfl
      · exact .never _
  next => exact .field plain rfl

theorem noteFields_complains (fields : Fields) :
    Complains room (.object fields) (noteFields fields) :=
  (wholeNumber_complains fields "octave").bind fun _ =>
    (accidental_complains fields).bind fun _ =>
      (units_complains fields "duration").bind fun _ =>
        (wholeNumber_complains fields "transpose").bind fun _ => .never _

theorem tieMark_complains (fields : Fields) :
    Complains room (.object fields) (TieMark.ofValue (field fields "tie" .null)) := by
  unfold TieMark.ofValue
  split
  next => exact .never _
  next =>
    split_ifs
    · exact .never _
    · exact .never _
    · exact .never _
    · exact .field rfl rfl
  next => exact .field rfl rfl

theorem barLine_complains (fields : Fields) :
    Complains room (.object fields) (barLine fields) := by
  unfold barLine
  dsimp only
  split
  next sign given =>
    cases BarLine.ofSign? sign with
    | none => exact .field rfl rfl
    | some line => exact .never line
  next => exact .field rfl rfl

theorem key_complains (fields : Fields) : Complains room (.object fields) (key fields) := by
  unfold key
  dsimp only
  split
  next => exact .wrapped _ fun _ => rfl
  next => exact .wrapped (.error _) fun _ => rfl
  next => exact .wrapped _ fun _ => rfl

end Document

end ScorePlayback
