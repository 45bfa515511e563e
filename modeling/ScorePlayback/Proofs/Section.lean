import ScorePlayback.Proofs.Walk

/-! Sections of a score: what lies between one repeat mark and the next. A section behind an opening
is gone through in passes, of which each but the last is ended by an item that asks for more. -/

namespace ScorePlayback

/-- Whether a repeat is opened by an item once playback goes on past it. -/
def Item.opens : Item → Bool
  | .bar (.line .repeatOpen) => true
  | .bar (.line .repeatCloseOpen) => true
  | _ => false

def Item.closes : Item → Bool
  | .bar (.line .repeatClose) => true
  | .bar (.line .repeatCloseOpen) => true
  | _ => false

/-- The pass that a numbered ending is meant for. -/
def Item.target? : Item → Option Int
  | .bar (.ending numbered) => some numbered.target
  | _ => none

def Item.exceeds (pass : Nat) (item : Item) : Bool :=
  item.target?.any fun target => (pass : Int) < target

namespace Score

def opensAt (score : Score) (index : Nat) : Bool := (score.items[index]?).any Item.opens

def closesAt (score : Score) (index : Nat) : Bool := (score.items[index]?).any Item.closes

def upToMark (score : Score) (start : Nat) : List Item :=
  (score.items.drop start).takeWhile (!·.isMark)

/-- The index of the next mark, or the length of the score if there is none. -/
def nextMark (score : Score) (start : Nat) : Nat := start + (score.upToMark start).length

/-- How often the section behind an opening is gone through: as often as the numbered endings in it
ask for, and twice at least if it is closed by a repeat. -/
def passCount (score : Score) (opening : Nat) : Nat :=
  (((score.upToMark (opening + 1)).filterMap Item.target?).map Int.toNat).foldr max
    (if score.closesAt (score.nextMark (opening + 1)) then 2 else 1)

/-- The index of the first ending for a later pass in the section, or else of the next mark. -/
def passEnd (score : Score) (opening pass : Nat) : Nat :=
  opening + 1 + (score.upToMark (opening + 1)).findIdx (Item.exceeds pass)

/-- The indices from one to another, both included, that are inside the score. -/
def indices (score : Score) (first last : Nat) : List Nat :=
  List.range' first (min (last + 1) score.items.length - first)

theorem passEnd_le_nextMark (score : Score) (opening pass : Nat) :
    score.passEnd opening pass ≤ score.nextMark (opening + 1) :=
  Nat.add_le_add_left List.findIdx_le_length _

theorem isMark_of_opensAt {score : Score} {index : Nat} {item : Item}
    (opens : score.opensAt index = true) (here : score.items[index]? = some item) :
    item.isMark = true := by
  simp only [opensAt, here, Option.any_some] at opens
  match item with
  | .bar (.line .repeatOpen) => rfl
  | .bar (.line .repeatCloseOpen) => rfl

theorem upToMark_plain (score : Score) (start : Nat) {item : Item}
    (member : item ∈ score.upToMark start) : item.isMark = false := by
  have plain := List.all_takeWhile (l := score.items.drop start) (p := fun item => !item.isMark)
  simpa using List.all_eq_true.mp plain item member

theorem drop_nextMark (score : Score) (start : Nat) :
    score.items.drop (score.nextMark start) =
      (score.items.drop start).dropWhile fun item => !item.isMark := by
  have split := List.takeWhile_append_dropWhile (p := fun item : Item => !item.isMark)
    (l := score.items.drop start)
  have rest := congrArg (List.drop (score.upToMark start).length) split
  rw [upToMark, List.drop_left, ← upToMark, List.drop_drop, ← nextMark] at rest
  exact rest.symm

theorem drop_eq_upToMark_append (score : Score) (start : Nat) :
    score.items.drop start = score.upToMark start ++ score.items.drop (score.nextMark start) := by
  rw [drop_nextMark]
  exact List.takeWhile_append_dropWhile.symm

/-- Whatever lies before the next mark is in the section up to it. -/
theorem mem_upToMark {score : Score} {start index : Nat} {item : Item} (ahead : start ≤ index)
    (near : index < score.nextMark start) (here : score.items[index]? = some item) :
    item ∈ score.upToMark start := by
  have whole := congrArg (·[index - start]?) (score.drop_eq_upToMark_append start)
  simp only [List.getElem?_drop, Nat.add_sub_cancel' ahead, here] at whole
  rw [List.getElem?_append_left] at whole
  · exact List.mem_of_getElem? whole.symm
  · unfold nextMark at near
    omega

theorem nextMark_le {score : Score} {start : Nat} (inside : start ≤ score.items.length) :
    score.nextMark start ≤ score.items.length := by
  have split := congrArg List.length (score.drop_eq_upToMark_append start)
  simp only [List.length_append, List.length_drop] at split
  unfold nextMark
  omega

theorem isMark_of_nextMark {score : Score} {start : Nat} {item : Item}
    (here : score.items[score.nextMark start]? = some item) : item.isMark = true := by
  have first := List.head?_dropWhile_not (fun item : Item => !item.isMark) (score.items.drop start)
  rw [← drop_nextMark, List.head?_drop, here] at first
  simpa using first

end Score

theorem Item.exceeds_iff {item : Item} (plain : item.isMark = false) {pass : Nat} :
    item.exceeds pass = true ↔ pass < item.passes := by
  match item with
  | .bar (.ending _) => exact decide_eq_true_iff
  | .bar (.line .simple) | .note _ | .chord _ | .key _ | .tempo _ | .absent =>
    exact ⟨nofun, fun more => absurd more (Int.not_lt.mpr (Int.natCast_nonneg _))⟩

theorem Item.passes_of_isMark {item : Item} (mark : item.isMark = true) :
    item.passes = if item.closes then 2 else 0 := by
  match item with
  | .bar (.line .repeatOpen) => rfl
  | .bar (.line .repeatClose) => rfl
  | .bar (.line .repeatCloseOpen) => rfl

theorem RepeatState.past_of_isMark {item : Item} (mark : item.isMark = true)
    (state : RepeatState) (index : Nat) :
    (state.past index item).opening = (if item.opens then some index else none) ∧
      (state.past index item).pass = 1 := by
  match item with
  | .bar (.line .repeatOpen) => exact ⟨rfl, rfl⟩
  | .bar (.line .repeatClose) => exact ⟨rfl, rfl⟩
  | .bar (.line .repeatCloseOpen) => exact ⟨rfl, rfl⟩

private theorem lt_foldr_max {bound first : Nat} {numbers : List Nat} :
    bound < numbers.foldr max first ↔ bound < first ∨ ∃ number ∈ numbers, bound < number := by
  induction numbers with
  | nil => simp
  | cons number rest ih =>
    have max : bound < max number (rest.foldr max first) ↔
        bound < number ∨ bound < rest.foldr max first := by omega
    simp only [List.foldr_cons, max, ih, List.mem_cons, exists_eq_or_imp, or_left_comm]

private theorem exists_findIdx_split {p : Item → Bool} {items : List Item}
    (found : ∃ item ∈ items, p item = true) :
    ∃ front item rest, items = front ++ item :: rest ∧ front.length = items.findIdx p ∧
      (∀ other ∈ front, p other = false) ∧ p item = true := by
  have inside := List.findIdx_lt_length_of_exists found
  refine ⟨items.take (items.findIdx p), items[items.findIdx p], items.drop (items.findIdx p + 1),
    ?_, ?_, ?_, List.findIdx_getElem⟩
  · rw [List.getElem_cons_drop, List.take_append_drop]
  · rw [List.length_take]
    omega
  · intro other member
    obtain ⟨index, bound, rfl⟩ := List.mem_take_iff_getElem.mp member
    exact List.not_of_lt_findIdx (by omega)

namespace Score
variable {score : Score} {opening pass : Nat}

theorem lt_passCount_iff : pass < score.passCount opening ↔
    (pass < if score.closesAt (score.nextMark (opening + 1)) then 2 else 1) ∨
      ∃ item ∈ score.upToMark (opening + 1), item.exceeds pass = true := by
  rw [passCount, lt_foldr_max]
  refine or_congr_right ⟨?_, ?_⟩
  · rintro ⟨number, member, more⟩
    obtain ⟨target, targets, rfl⟩ := List.mem_map.mp member
    obtain ⟨item, inside, found⟩ := List.mem_filterMap.mp targets
    refine ⟨item, inside, ?_⟩
    simp only [Item.exceeds, found, Option.any_some, decide_eq_true_eq]
    omega
  · rintro ⟨item, inside, more⟩
    unfold Item.exceeds at more
    cases found : item.target? with
    | none => simp [found] at more
    | some target =>
      simp only [found, Option.any_some, decide_eq_true_eq] at more
      have member := List.mem_map_of_mem (f := Int.toNat)
        (List.mem_filterMap.mpr ⟨item, inside, found⟩)
      exact ⟨target.toNat, member, by omega⟩

theorem one_le_passCount (score : Score) (opening : Nat) : 1 ≤ score.passCount opening := by
  refine lt_passCount_iff.mpr (.inl ?_)
  split <;> omega

theorem passes_le_of_not_exceeds {item : Item} (member : item ∈ score.upToMark (opening + 1))
    (passed : item.exceeds pass = false) : item.isMark = false ∧ item.passes ≤ pass := by
  have plain := score.upToMark_plain (opening + 1) member
  rw [Bool.eq_false_iff, ne_eq, Item.exceeds_iff plain] at passed
  exact ⟨plain, by omega⟩

theorem passEnd_eq_nextMark
    (passed : ∀ item ∈ score.upToMark (opening + 1), item.exceeds pass = false) :
    score.passEnd opening pass = score.nextMark (opening + 1) := by
  rw [passEnd, nextMark, List.findIdx_eq_length_of_false passed]

/-- An item that ends a pass because it asks for more, and what comes before it in the pass. -/
structure Stop (score : Score) (opening pass : Nat) (items : List Item) (item : Item) : Prop where
  ahead : ∃ rest, score.items.drop (opening + 1) = items ++ item :: rest
  length : opening + 1 + items.length = score.passEnd opening pass
  before : ∀ other ∈ items, other.isMark = false ∧ other.passes ≤ pass
  more : pass < item.passes

private theorem Stop.of_exceeds
    (found : ∃ item ∈ score.upToMark (opening + 1), item.exceeds pass = true) :
    ∃ items item, score.Stop opening pass items item := by
  obtain ⟨front, item, rest, split, length, before, exceeds⟩ := exists_findIdx_split found
  have plain : item.isMark = false := score.upToMark_plain (opening + 1) (by simp [split])
  refine ⟨front, item, ⟨rest ++ score.items.drop (score.nextMark (opening + 1)), ?_⟩,
    by rw [passEnd, length], ?_, (Item.exceeds_iff plain).mp exceeds⟩
  · rw [drop_eq_upToMark_append, split, List.append_assoc, List.cons_append]
  · intro other inside
    have member : other ∈ score.upToMark (opening + 1) := by simp [split, inside]
    exact passes_le_of_not_exceeds member (before other inside)

private theorem Stop.of_closesAt
    (passed : ∀ item ∈ score.upToMark (opening + 1), item.exceeds pass = false)
    (closed : score.closesAt (score.nextMark (opening + 1)) = true) (first : pass < 2) :
    ∃ items item, score.Stop opening pass items item := by
  obtain ⟨mark, here, closes⟩ := (Option.any_eq_true _ _).mp closed
  obtain ⟨before, same⟩ := List.getElem?_eq_some_iff.mp here
  refine ⟨score.upToMark (opening + 1), mark,
    ⟨score.items.drop (score.nextMark (opening + 1) + 1), ?_⟩,
    (passEnd_eq_nextMark passed).symm, ?_, ?_⟩
  · rw [drop_eq_upToMark_append, List.drop_eq_getElem_cons before, same]
  · exact fun other inside => passes_le_of_not_exceeds inside (passed other inside)
  · rw [Item.passes_of_isMark (isMark_of_nextMark here), if_pos closes]
    omega

/-- A pass that is not the last is ended by an item that asks for more. -/
theorem exists_stop (positive : 1 ≤ pass) (more : pass < score.passCount opening) :
    ∃ items item, score.Stop opening pass items item := by
  by_cases found : ∃ item ∈ score.upToMark (opening + 1), item.exceeds pass = true
  · exact Stop.of_exceeds found
  · have passed : ∀ item ∈ score.upToMark (opening + 1), item.exceeds pass = false :=
      fun item inside => Bool.eq_false_iff.mpr fun exceeds => found ⟨item, inside, exceeds⟩
    have first := (lt_passCount_iff.mp more).resolve_right found
    split at first
    next closed => exact Stop.of_closesAt passed closed first
    next => omega

theorem exceeds_eq_false_of_last (last : score.passCount opening ≤ pass) {item : Item}
    (inside : item ∈ score.upToMark (opening + 1)) : item.exceeds pass = false :=
  Bool.eq_false_iff.mpr fun exceeds =>
    Nat.not_lt.mpr last (lt_passCount_iff.mpr (.inr ⟨item, inside, exceeds⟩))

theorem passes_mark_le_of_last (last : score.passCount opening ≤ pass) {mark : Item}
    (here : score.items[score.nextMark (opening + 1)]? = some mark) : mark.passes ≤ pass := by
  rw [Item.passes_of_isMark (isMark_of_nextMark here)]
  split
  next closes =>
    have closed : score.closesAt (score.nextMark (opening + 1)) = true := by
      simp [closesAt, here, closes]
    have many : 2 ≤ pass := by
      refine Nat.le_of_not_lt fun few => Nat.not_lt.mpr last (lt_passCount_iff.mpr (.inl ?_))
      rwa [if_pos closed]
    omega
  next => omega

end Score

end ScorePlayback
