import ScorePlayback.Notation.Score
import ScorePlayback.Performance.RepeatState

/-! The order in which the items of a score are visited. A cursor moves forward item by item, and
a bar line may send it back to just after the opening of the active repeat.

The route ends: with the opening fixed the passes are bounded by what the bars of the score ask
for, and a new opening lies behind the old one. -/

namespace ScorePlayback

def Item.passes : Item → Int
  | .bar line => line.passes
  | _ => 0

/-- The most passes that any bar of a score asks for. -/
def Score.passLimit (score : Score) : Nat :=
  score.items.foldr (fun item limit => max item.passes.toNat limit) 0

theorem Score.passes_le_passLimit {score : Score} {item : Item} (member : item ∈ score.items) :
    item.passes ≤ score.passLimit := by
  obtain ⟨items⟩ := score
  simp only [Score.passLimit] at member ⊢
  induction items with
  | nil => cases member
  | cons head tail ih =>
    simp only [List.foldr_cons]
    cases member with
    | head => omega
    | tail _ member => have := ih member; omega

/-- The active opening lies behind the cursor. -/
structure Cursor where
  index : Nat
  repeats : RepeatState
  opening_lt : ∀ opening ∈ repeats.opening, opening < index

namespace Cursor

def start : Cursor := ⟨0, {}, by simp⟩

theorem onward_opening_lt (cursor : Cursor) (bar : Bar) :
    ∀ opening ∈ (cursor.repeats.onward (some cursor.index) bar).opening,
      opening < cursor.index + 1 := by
  intro opening active
  have behind := cursor.opening_lt opening
  match bar with
  | .ending _ => exact Nat.lt_succ_of_lt (behind active)
  | .line .simple => exact Nat.lt_succ_of_lt (behind active)
  | .line .repeatClose => simp [RepeatState.onward] at active
  | .line .repeatOpen => simp [RepeatState.onward] at active; omega
  | .line .repeatCloseOpen => simp [RepeatState.onward] at active; omega

theorem rewind_opening_lt {state : RepeatState} {bar : Bar} {target : Nat}
    (back : state.back? bar = some target) :
    ∀ opening ∈ state.rewind.opening, opening < target + 1 := by
  intro opening active
  have found := (RepeatState.back?_eq_some_iff.mp back).2
  simp only [RepeatState.rewind, Option.mem_def, found, Option.some.injEq] at active
  omega

/-- The cursor after it has visited an item. -/
def next (cursor : Cursor) : Item → Cursor
  | .bar bar =>
    match back : cursor.repeats.back? bar with
    | some target => ⟨target + 1, cursor.repeats.rewind, rewind_opening_lt back⟩
    | none =>
      ⟨cursor.index + 1, cursor.repeats.onward (some cursor.index) bar,
        cursor.onward_opening_lt bar⟩
  | _ =>
    ⟨cursor.index + 1, cursor.repeats, fun opening active =>
      Nat.lt_succ_of_lt (cursor.opening_lt opening active)⟩

/-- The first place that the active repeat may still play: all before it is done with. -/
def base (cursor : Cursor) : Nat := cursor.repeats.opening.elim cursor.index (· + 1)

theorem base_le (cursor : Cursor) : cursor.base ≤ cursor.index := by
  unfold base
  cases active : cursor.repeats.opening with
  | none => simp
  | some opening => exact cursor.opening_lt opening active

/-- What is left to play, in three digits: places not done with, passes left, items ahead. -/
def remaining (length limit : Nat) (cursor : Cursor) : Nat :=
  ((length - cursor.base) * (limit + 1) + (limit - cursor.repeats.pass)) * (length + 1)
    + (length - cursor.index)

theorem digits_lt {high high' low low' radix : Nat} (less : high' < high) (small : low' < radix) :
    high' * radix + low' < high * radix + low := by
  have := Nat.mul_le_mul_right radix (Nat.succ_le_of_lt less)
  rw [Nat.succ_mul] at this
  omega

theorem remaining_lt_of_base {length limit : Nat} {before after : Cursor}
    (inside : before.index < length) (further : before.base < after.base) :
    after.remaining length limit < before.remaining length limit := by
  have := before.base_le
  exact digits_lt (digits_lt (by omega) (by omega)) (by omega)

theorem remaining_lt_of_pass {length limit : Nat} {before after : Cursor}
    (same : after.base = before.base) (allowed : before.repeats.pass < limit)
    (again : after.repeats.pass = before.repeats.pass + 1) :
    after.remaining length limit < before.remaining length limit := by
  have fewer : limit - after.repeats.pass < limit - before.repeats.pass := by omega
  refine digits_lt ?_ (by omega)
  rw [same]
  omega

/-- A step that changes nothing but the index brings the cursor on. -/
theorem remaining_lt_of_step {length limit : Nat} {before after : Cursor}
    (opening : after.repeats.opening = before.repeats.opening)
    (pass : after.repeats.pass = before.repeats.pass)
    (inside : before.index < length) (ahead : after.index = before.index + 1) :
    after.remaining length limit < before.remaining length limit := by
  cases active : before.repeats.opening with
  | none =>
    apply remaining_lt_of_base inside
    simp [base, opening, active, ahead]
  | some place =>
    have sameBase : after.base = before.base := by simp [base, opening, active]
    unfold remaining
    rw [sameBase, pass]
    omega

theorem remaining_next_lt {items : List Item} {limit : Nat} (cursor : Cursor) {item : Item}
    (here : items[cursor.index]? = some item) (bounded : item.passes ≤ limit) :
    (cursor.next item).remaining items.length limit < cursor.remaining items.length limit := by
  have inside : cursor.index < items.length := (List.getElem?_eq_some_iff.mp here).1
  cases item with
  | bar bar =>
    simp only [next]
    split
    next target back =>
      have found := RepeatState.back?_eq_some_iff.mp back
      apply remaining_lt_of_pass
      · simp [base, RepeatState.rewind, found.2]
      · simp only [Item.passes] at bounded
        omega
      · rfl
    next =>
      match bar with
      | .ending _ => exact remaining_lt_of_step rfl rfl inside rfl
      | .line .simple => exact remaining_lt_of_step rfl rfl inside rfl
      | .line .repeatClose =>
        apply remaining_lt_of_base inside
        have := cursor.base_le
        simp only [base, RepeatState.onward, Option.elim_none]
        exact Nat.lt_succ_of_le this
      | .line .repeatOpen =>
        apply remaining_lt_of_base inside
        have := cursor.base_le
        simp only [base, RepeatState.onward, Option.elim_some]
        exact Nat.lt_succ_of_le this
      | .line .repeatCloseOpen =>
        apply remaining_lt_of_base inside
        have := cursor.base_le
        simp only [base, RepeatState.onward, Option.elim_some]
        exact Nat.lt_succ_of_le this
  | note => exact remaining_lt_of_step rfl rfl inside rfl
  | chord => exact remaining_lt_of_step rfl rfl inside rfl
  | key => exact remaining_lt_of_step rfl rfl inside rfl
  | tempo => exact remaining_lt_of_step rfl rfl inside rfl
  | absent => exact remaining_lt_of_step rfl rfl inside rfl

end Cursor

/-- An item as the cursor finds it, with the state of the repeats on arrival. -/
structure Visit where
  index : Nat
  item : Item
  repeats : RepeatState

def Score.routeFrom (score : Score) (cursor : Cursor) : List Visit :=
  match _here : score.items[cursor.index]? with
  | none => []
  | some item => ⟨cursor.index, item, cursor.repeats⟩ :: score.routeFrom (cursor.next item)
termination_by cursor.remaining score.items.length score.passLimit
decreasing_by
  have here : score.items[cursor.index]? = some item := by assumption
  exact cursor.remaining_next_lt here (Score.passes_le_passLimit (List.mem_of_getElem? here))

theorem Score.routeFrom_of_none {score : Score} {cursor : Cursor}
    (past : score.items[cursor.index]? = none) : score.routeFrom cursor = [] := by
  rw [Score.routeFrom]
  split
  next => rfl
  next item here => rw [past] at here; cases here

theorem Score.routeFrom_of_some {score : Score} {cursor : Cursor} {item : Item}
    (found : score.items[cursor.index]? = some item) :
    score.routeFrom cursor =
      ⟨cursor.index, item, cursor.repeats⟩ :: score.routeFrom (cursor.next item) := by
  rw [Score.routeFrom]
  split
  next past => rw [past] at found; cases found
  next other here =>
    rw [here] at found
    cases found
    rfl

/-- Every item that is visited, in the order of the visits. -/
def Score.route (score : Score) : List Visit := score.routeFrom .start

end ScorePlayback
