import ScorePlayback.Proofs.Section

/-! The walk through one section. A pass that is not the last ends at the first item that asks for
more passes and goes back behind the opening; the last pass goes on past the mark. -/

namespace ScorePlayback

/-- Right behind the section that `mark` ends, or behind the last item of the score. -/
structure Cursor.Beyond (score : Score) (mark : Nat) (cursor : Cursor) : Prop where
  index : cursor.index = min (mark + 1) score.items.length
  pass : mark < score.items.length → cursor.repeats.pass = 1
  opening : mark < score.items.length →
    cursor.repeats.opening = if score.opensAt mark then some mark else none

namespace Score
variable {score : Score} {cursor : Cursor}

def stages (score : Score) (opening : Option Nat) (pass first last : Nat) :
    List (Nat × Option Nat × Nat) :=
  (score.indices first last).map fun index => (index, opening, pass)

theorem opensAt_of_getElem? {index : Nat} {item : Item}
    (here : score.items[index]? = some item) : score.opensAt index = item.opens := by
  rw [opensAt, here, Option.any_some]

/-- A pass in which nothing is sent back goes on past the mark. -/
theorem last_pass (inside : cursor.index ≤ score.items.length)
    (straight : cursor.repeats.Straight (score.upToMark cursor.index))
    (passed : ∀ mark, score.items[score.nextMark cursor.index]? = some mark →
      cursor.repeats.sentBack? mark = none) :
    ∃ visits final, score.Walk cursor visits final ∧
      visits.map Visit.stage = score.stages cursor.repeats.opening cursor.repeats.pass
        cursor.index (score.nextMark cursor.index) ∧
      final.Beyond score (score.nextMark cursor.index) := by
  have ahead := score.drop_eq_upToMark_append cursor.index
  have bound := nextMark_le inside
  have length : score.nextMark cursor.index = cursor.index + (score.upToMark cursor.index).length :=
    rfl
  obtain ⟨index, -, -⟩ := straight.run
  cases here : score.items[score.nextMark cursor.index]? with
  | none =>
    have ended := List.getElem?_eq_none_iff.mp here
    refine ⟨_, _, straight.walk ahead, ?_, by omega, by omega, by omega⟩
    rw [straight.stages, stages, indices]
    congr 2
    omega
  | some mark =>
    obtain ⟨before, same⟩ := List.getElem?_eq_some_iff.mp here
    rw [List.drop_eq_getElem_cons before, same] at ahead
    have last := (straight.run_sentBack? mark).trans (passed mark here)
    obtain ⟨finalIndex, repeats⟩ := Cursor.next_of_passed last
    obtain ⟨opening, pass⟩ := RepeatState.past_of_isMark (isMark_of_nextMark here)
      (cursor.run (score.upToMark cursor.index)).repeats
      (cursor.run (score.upToMark cursor.index)).index
    rw [← repeats] at opening pass
    refine ⟨_, _, straight.walk_concat ahead, ?_, by omega, fun _ => pass, fun _ => ?_⟩
    · rw [straight.stages_concat, stages, indices]
      congr 2
      omega
    · rw [opening, opensAt_of_getElem? here, index, length]

private theorem rewinding_pass {opening : Nat} {items : List Item} {item : Item}
    (active : cursor.repeats.opening = some opening) (start : cursor.index = opening + 1)
    (stop : score.Stop opening cursor.repeats.pass items item) :
    ∃ visits final, score.Walk cursor visits final ∧
      visits.map Visit.stage = score.stages (some opening) cursor.repeats.pass (opening + 1)
        (score.passEnd opening cursor.repeats.pass) ∧
      final.index = opening + 1 ∧ final.repeats.opening = some opening ∧
      final.repeats.pass = cursor.repeats.pass + 1 := by
  obtain ⟨rest, ahead⟩ := stop.ahead
  have straight : cursor.repeats.Straight items := fun other member =>
    ⟨(stop.before other member).1,
      RepeatState.sentBack?_eq_none_iff.mpr (.inr (stop.before other member).2)⟩
  have back : cursor.repeats.sentBack? item = some opening :=
    RepeatState.sentBack?_eq_some_iff.mpr ⟨stop.more, active⟩
  rw [← straight.run_sentBack? item] at back
  obtain ⟨index, repeats⟩ := Cursor.next_of_sentBack back
  obtain ⟨-, sameOpening, samePass⟩ := straight.run
  have bound := congrArg List.length ahead
  simp only [List.length_drop, List.length_append, List.length_cons] at bound
  have length := stop.length
  rw [← start] at ahead
  refine ⟨_, _, straight.walk_concat ahead, ?_, index, ?_, ?_⟩
  · rw [straight.stages_concat, stages, indices, active, start]
    congr 2
    omega
  · rw [repeats]
    exact sameOpening.trans active
  · rw [repeats]
    exact congrArg (· + 1) samePass

/-- From any of its passes on, a section behind an opening is gone through to its last pass. -/
theorem opened_section {opening : Nat} (inside : opening < score.items.length)
    (active : cursor.repeats.opening = some opening) (start : cursor.index = opening + 1)
    (positive : 1 ≤ cursor.repeats.pass)
    (bounded : cursor.repeats.pass ≤ score.passCount opening) :
    ∃ visits final, score.Walk cursor visits final ∧
      visits.map Visit.stage = (List.range' cursor.repeats.pass
        (score.passCount opening + 1 - cursor.repeats.pass)).flatMap (fun pass =>
          score.stages (some opening) pass (opening + 1) (score.passEnd opening pass)) ∧
      final.Beyond score (score.nextMark (opening + 1)) := by
  induction left : score.passCount opening - cursor.repeats.pass generalizing cursor with
  | zero =>
    have last : score.passCount opening ≤ cursor.repeats.pass := by omega
    have passed : ∀ item ∈ score.upToMark (opening + 1),
        item.exceeds cursor.repeats.pass = false := fun item => exceeds_eq_false_of_last last
    have straight : cursor.repeats.Straight (score.upToMark cursor.index) := by
      rw [start]
      intro item member
      obtain ⟨plain, less⟩ := passes_le_of_not_exceeds member (passed item member)
      exact ⟨plain, RepeatState.sentBack?_eq_none_iff.mpr (.inr less)⟩
    obtain ⟨visits, final, walk, stages, beyond⟩ := last_pass (by omega) straight (by
      rw [start]
      exact fun mark here =>
        RepeatState.sentBack?_eq_none_iff.mpr (.inr (passes_mark_le_of_last last here)))
    rw [start] at stages beyond
    refine ⟨visits, final, walk, ?_, beyond⟩
    have once : score.passCount opening + 1 - cursor.repeats.pass = 1 := by omega
    rw [stages, active, once, List.range'_one, List.flatMap_singleton, passEnd_eq_nextMark passed]
  | succ left ih =>
    have more : cursor.repeats.pass < score.passCount opening := by omega
    obtain ⟨items, item, stop⟩ := exists_stop positive more
    obtain ⟨first, middle, walk, stages, index, sameOpening, pass⟩ :=
      rewinding_pass active start stop
    obtain ⟨rest, final, onward, moreStages, beyond⟩ :=
      ih sameOpening index (by omega) (by omega) (by omega)
    refine ⟨first ++ rest, final, walk.trans onward, ?_, beyond⟩
    have again : score.passCount opening + 1 - cursor.repeats.pass =
        (score.passCount opening + 1 - middle.repeats.pass) + 1 := by omega
    rw [List.map_append, stages, moreStages, again, List.range'_succ, List.flatMap_cons, pass]

private theorem unopened_section (inside : cursor.index ≤ score.items.length)
    (inactive : cursor.repeats.opening = none) :
    ∃ visits final, score.Walk cursor visits final ∧
      visits.map Visit.stage = score.stages none cursor.repeats.pass cursor.index
        (score.nextMark cursor.index) ∧
      final.Beyond score (score.nextMark cursor.index) := by
  have passed (item : Item) : cursor.repeats.sentBack? item = none :=
    RepeatState.sentBack?_eq_none_iff.mpr (.inl inactive)
  have walked := last_pass inside (fun item member => ⟨score.upToMark_plain _ member, passed item⟩)
    fun mark _ => passed mark
  rwa [inactive] at walked

def sectionStages (score : Score) (active : Option Nat) (start : Nat) :
    List (Nat × Option Nat × Nat) :=
  match active with
  | none => score.stages none 1 start (score.nextMark start)
  | some opening => (List.range' 1 (score.passCount opening)).flatMap fun pass =>
      score.stages (some opening) pass start (score.passEnd opening pass)

end Score

/-- At the start of a section: on the first pass, with an active opening right before it. -/
structure Cursor.Fresh (score : Score) (cursor : Cursor) : Prop where
  inside : cursor.index ≤ score.items.length
  pass : cursor.repeats.pass = 1
  opening : ∀ opening, cursor.repeats.opening = some opening →
    cursor.index = opening + 1 ∧ score.opensAt opening = true

/-- The whole section at a cursor is gone through by these visits. -/
structure Score.Traverses (score : Score) (cursor : Cursor) (visits : List Visit)
    (final : Cursor) : Prop where
  walk : score.Walk cursor visits final
  stages : visits.map Visit.stage = score.sectionStages cursor.repeats.opening cursor.index
  beyond : final.Beyond score (score.nextMark cursor.index)

namespace Cursor
variable {score : Score} {cursor : Cursor}

theorem start_fresh (score : Score) : start.Fresh score :=
  ⟨Nat.zero_le _, rfl, fun _ active => nomatch active⟩

theorem Beyond.fresh {mark : Nat} (beyond : cursor.Beyond score mark)
    (inside : mark < score.items.length) : cursor.Fresh score := by
  have index := beyond.index
  refine ⟨by omega, beyond.pass inside, fun opening active => ?_⟩
  rw [beyond.opening inside] at active
  split at active
  next opens =>
    cases active
    exact ⟨by omega, opens⟩
  next => cases active

theorem Fresh.traverses (fresh : cursor.Fresh score) :
    ∃ visits final, score.Traverses cursor visits final := by
  cases active : cursor.repeats.opening with
  | none =>
    obtain ⟨visits, final, walk, stages, beyond⟩ := Score.unopened_section fresh.inside active
    rw [fresh.pass] at stages
    exact ⟨visits, final, walk, by rw [active]; exact stages, beyond⟩
  | some opening =>
    have start := (fresh.opening opening active).1
    have inside : opening < score.items.length := by
      have := fresh.inside
      omega
    have bounded : cursor.repeats.pass ≤ score.passCount opening := by
      rw [fresh.pass]
      exact score.one_le_passCount opening
    obtain ⟨visits, final, walk, stages, beyond⟩ :=
      Score.opened_section inside active start (Nat.le_of_eq fresh.pass.symm) bounded
    rw [fresh.pass, Nat.add_sub_cancel, ← start] at stages
    rw [← start] at beyond
    exact ⟨visits, final, walk, by rw [active]; exact stages, beyond⟩

/-- Induction along the sections of a score, from the last one backwards. -/
theorem Fresh.induction {motive : Cursor → Prop}
    (last : ∀ cursor visits final, cursor.Fresh score → score.Traverses cursor visits final →
      score.items.length ≤ score.nextMark cursor.index → score.routeFrom cursor = visits →
      motive cursor)
    (onward : ∀ cursor visits final, cursor.Fresh score → score.Traverses cursor visits final →
      score.nextMark cursor.index < score.items.length → final.Fresh score → motive final →
      motive cursor)
    (fresh : cursor.Fresh score) : motive cursor := by
  induction left : score.items.length - cursor.index using Nat.strongRecOn generalizing cursor with
  | ind left ih =>
    subst left
    obtain ⟨visits, final, traverses⟩ := fresh.traverses
    have index := traverses.beyond.index
    have ahead : cursor.index ≤ score.nextMark cursor.index := Nat.le_add_right _ _
    by_cases inside : score.nextMark cursor.index < score.items.length
    · have next := traverses.beyond.fresh inside
      exact onward cursor visits final fresh traverses inside next (ih _ (by omega) next rfl)
    · have past : score.items[final.index]? = none := List.getElem?_eq_none_iff.mpr (by omega)
      have whole := traverses.walk.routeFrom_eq
      rw [Score.routeFrom_of_none past, List.append_nil] at whole
      exact last cursor visits final fresh traverses (by omega) whole

end Cursor

end ScorePlayback
