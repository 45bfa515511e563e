import ScorePlayback.Proofs.RouteLength
import ScorePlayback.Proofs.Skipping

/-! The state of the repeats along a walk. As long as a repeat is active its opening lies behind the
cursor with no mark in between, and the numbered endings up to the next mark bound its passes. While
none is active playback is on its first pass. -/

namespace ScorePlayback

namespace Score
variable {score : Score}

/-- The largest target of the numbered endings between an opening and the next mark, or 0 if there
is no ending. -/
def sectionTarget (score : Score) (opening : Nat) : Int :=
  highestTarget ⟨score.upToMark (opening + 1)⟩

theorem passCount_le_sectionTarget (score : Score) (opening : Nat) :
    (score.passCount opening : Int) ≤ max 2 (score.sectionTarget opening) := by
  apply passCount_le (Int.le_max_left ..)
  intro item member target found
  have highest : target ≤ score.sectionTarget opening := target_le_highestTarget member found
  omega

end Score

namespace RepeatState
variable {score : Score} {state : RepeatState}

/-- Passes are counted from one, and only through an active repeat. It has been opened by a mark. -/
structure Counted (score : Score) (state : RepeatState) : Prop where
  positive : 1 ≤ state.pass
  idle : state.opening = none → state.pass = 1
  opens : ∀ opening, state.opening = some opening → score.opensAt opening = true

theorem Counted.rewind (counted : state.Counted score) {opening : Nat}
    (active : state.opening = some opening) : state.rewind.Counted score := by
  refine ⟨Nat.le_add_left 1 _, ?_, counted.opens⟩
  intro idle
  cases active.symm.trans idle

theorem Counted.past (counted : state.Counted score) {index : Nat} {item : Item}
    (here : score.items[index]? = some item) : (state.past index item).Counted score := by
  cases plain : item.isMark with
  | false =>
    have opening : (state.past index item).opening = state.opening := past_opening plain index
    have pass : (state.past index item).pass = state.pass := past_pass plain index
    constructor
    · rw [pass]
      exact counted.positive
    · rw [opening, pass]
      exact counted.idle
    · rw [opening]
      exact counted.opens
  | true =>
    obtain ⟨opening, pass⟩ := past_of_isMark plain state index
    refine ⟨Nat.le_of_eq pass.symm, fun _ => pass, ?_⟩
    intro other active
    rw [opening] at active
    split at active
    next opens =>
      cases active
      rw [Score.opensAt_of_getElem? here]
      exact opens
    next => cases active

end RepeatState

private theorem Cursor.counted_next {score : Score} {cursor : Cursor} {item : Item}
    (counted : cursor.repeats.Counted score) (here : score.items[cursor.index]? = some item) :
    (cursor.next item).repeats.Counted score := by
  cases back : cursor.repeats.sentBack? item with
  | some target =>
    rw [(next_of_sentBack back).2]
    exact counted.rewind (RepeatState.sentBack?_eq_some_iff.mp back).2
  | none =>
    rw [(next_of_passed back).2]
    exact counted.past here

theorem Score.Walk.counted {score : Score} {before after : Cursor} {visits : List Visit}
    (walk : score.Walk before visits after) (start : before.repeats.Counted score) :
    after.repeats.Counted score := by
  induction walk with
  | stay => exact start
  | step here _ ih => exact ih (Cursor.counted_next start here)

/-- In the repeat behind an opening, and not yet past the mark at its end. -/
structure Cursor.InRepeat (score : Score) (opening : Nat) (cursor : Cursor) : Prop where
  behind : opening < cursor.index
  opens : score.opensAt opening = true
  unmarked : ∀ index item, opening < index → index < cursor.index →
    score.items[index]? = some item → item.isMark = false
  positive : 1 ≤ cursor.repeats.pass
  bounded : cursor.repeats.pass ≤ max 2 (score.sectionTarget opening)

theorem Cursor.InSection.inRepeat {score : Score} {opening : Nat} {cursor : Cursor}
    {gone : List Item} (inside : cursor.InSection score opening gone)
    (counted : cursor.repeats.Counted score) (active : cursor.repeats.opening = some opening) :
    cursor.InRepeat score opening := by
  have index := inside.index
  have reached : cursor.index ≤ score.nextMark (opening + 1) := by
    have := inside.ahead.length_le
    unfold Score.nextMark
    omega
  refine ⟨by omega, counted.opens opening active, ?_, counted.positive, ?_⟩
  · intro between item after before here
    apply score.upToMark_plain (opening + 1)
    exact Score.mem_upToMark after (Nat.lt_of_lt_of_le before reached) here
  · have := inside.bounded
    have := score.passCount_le_sectionTarget opening
    omega

/-- Wherever a walk from the start leads, either no repeat is active and it is the first pass, or
the cursor is in the repeat that is active, in one of its passes. A bar that sends playback back
sends it to a place before its own. -/
theorem Score.Walk.repeats {score : Score} {visits : List Visit} {cursor : Cursor}
    (walk : score.Walk .start visits cursor) :
    ((cursor.repeats.opening = none ∧ cursor.repeats.pass = 1) ∨
      ∃ opening, cursor.repeats.opening = some opening ∧ cursor.InRepeat score opening) ∧
    ∀ bar target, score.items[cursor.index]? = some (.bar bar) →
      cursor.repeats.back? bar = some target →
      target < cursor.index ∧ (cursor.next (.bar bar)).index = target + 1 := by
  -- No repeat is active at the start, so both invariants hold there.
  have counted := walk.counted ⟨Nat.le_refl 1, fun _ => rfl, nofun⟩
  constructor
  · cases active : cursor.repeats.opening with
    | none => exact .inl ⟨rfl, counted.idle active⟩
    | some opening =>
      obtain ⟨gone, inside⟩ := walk.sectioned nofun opening active
      exact .inr ⟨opening, rfl, inside.inRepeat counted active⟩
  · intro bar target _ back
    have active := (RepeatState.back?_eq_some_iff.mp back).2
    obtain ⟨gone, inside⟩ := walk.sectioned nofun target active
    have sent : cursor.repeats.sentBack? (.bar bar) = some target := back
    exact ⟨(inside.inRepeat counted active).behind, (Cursor.next_of_sentBack sent).1⟩

/-- A repeat of three passes, closed by the mark that opens the next one. -/
def Score.chained : Score where
  items := [.bar (.line .repeatOpen), .note { id := 0 }, .bar (.ending { target := 3 }),
    .bar (.line .repeatCloseOpen), .note { id := 1 }, .bar (.line .repeatClose)]

theorem Score.Walk.repeats_chained :
    ∃ visits cursor, chained.Walk .start visits cursor ∧
      visits.map Visit.index = [0, 1, 2, 1, 2, 1, 2, 3, 4] ∧
      cursor.repeats.opening = some 3 ∧ cursor.InRepeat chained 3 ∧
      chained.items[cursor.index]? = some (.bar (.line .repeatClose)) ∧
      cursor.repeats.back? (.line .repeatClose) = some 3 ∧
      3 < cursor.index ∧ (cursor.next (.bar (.line .repeatClose))).index = 4 := by
  have walk : chained.Walk .start _ _ :=
    .step rfl <| .step rfl <| .step rfl <| .step rfl <| .step rfl <| .step rfl <| .step rfl <|
      .step rfl <| .step rfl .stay
  obtain ⟨state, behind⟩ := walk.repeats
  obtain ⟨less, again⟩ := behind (.line .repeatClose) 3 rfl rfl
  refine ⟨_, _, walk, rfl, rfl, ?_, rfl, rfl, less, again⟩
  rcases state with ⟨idle, -⟩ | ⟨opening, active, inside⟩
  · cases idle
  · cases active
    exact inside

end ScorePlayback
