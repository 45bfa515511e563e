import ScorePlayback.Proofs.Passes

/-! The shape of a whole route. Each opened section is gone through in its passes, all of them in
one stretch of the route, and what no opening repeats is visited once. -/

namespace ScorePlayback

/-- The visits before, in, and after the section behind an opening. -/
structure Score.Unfolds (score : Score) (cursor : Cursor) (opening : Nat)
    (before during after : List Visit) : Prop where
  route : score.routeFrom cursor = before ++ during ++ after
  opened : ∃ behind, score.Walk cursor before behind ∧ behind.index = opening + 1 ∧
    behind.repeats.opening = some opening ∧ behind.repeats.pass = 1
  earlier : ∀ visit ∈ before, visit.index ≤ opening
  passes : during.map Visit.stage = (List.range' 1 (score.passCount opening)).flatMap fun pass =>
    score.stages (some opening) pass (opening + 1) (score.passEnd opening pass)
  later : ∀ visit ∈ after, score.nextMark (opening + 1) < visit.index

/-- Whether an item is in the section behind an opening, to which the mark at its end belongs. -/
def Score.Repeated (score : Score) (index : Nat) : Prop :=
  ∃ opening, score.opensAt opening = true ∧
    opening < index ∧ index ≤ score.nextMark (opening + 1)

namespace Score
variable {score : Score}

theorem lt_length_of_opensAt {opening : Nat} (opens : score.opensAt opening = true) :
    opening < score.items.length := by
  obtain ⟨item, here, -⟩ := (Option.any_eq_true _ _).mp opens
  exact (List.getElem?_eq_some_iff.mp here).1

theorem nextMark_le_of_opensAt {start opening : Nat} (ahead : start ≤ opening)
    (opens : score.opensAt opening = true) : score.nextMark start ≤ opening := by
  refine Nat.le_of_not_lt fun inside => ?_
  obtain ⟨item, here, -⟩ := (Option.any_eq_true _ _).mp opens
  have plain := score.upToMark_plain start (mem_upToMark ahead inside here)
  rw [isMark_of_opensAt opens here] at plain
  cases plain

theorem mem_stages {opening : Option Nat} {pass first last : Nat} {stage : Nat × Option Nat × Nat}
    (member : stage ∈ score.stages opening pass first last) :
    first ≤ stage.1 ∧ stage.1 ≤ last := by
  obtain ⟨index, inside, rfl⟩ := List.mem_map.mp member
  rw [indices, List.mem_range'_1] at inside
  dsimp only
  omega

private theorem mem_sectionStages {cursor : Cursor} (fresh : cursor.Fresh score)
    {stage : Nat × Option Nat × Nat}
    (member : stage ∈ score.sectionStages cursor.repeats.opening cursor.index) :
    cursor.index ≤ stage.1 ∧ stage.1 ≤ score.nextMark cursor.index := by
  cases active : cursor.repeats.opening with
  | none =>
    rw [active] at member
    exact mem_stages member
  | some opening =>
    rw [active] at member
    obtain ⟨pass, -, inside⟩ := List.mem_flatMap.mp member
    have less := score.passEnd_le_nextMark opening pass
    rw [← (fresh.opening opening active).1] at less
    have := mem_stages inside
    omega

namespace Traverses
variable {cursor final : Cursor} {visits : List Visit}

theorem index_mem (traverses : score.Traverses cursor visits final) (fresh : cursor.Fresh score)
    {visit : Visit} (member : visit ∈ visits) :
    cursor.index ≤ visit.index ∧ visit.index ≤ score.nextMark cursor.index := by
  have stage := List.mem_map_of_mem (f := Visit.stage) member
  rw [traverses.stages] at stage
  exact mem_sectionStages fresh stage

private theorem indices_eq (traverses : score.Traverses cursor visits final)
    (inactive : cursor.repeats.opening = none) :
    visits.map Visit.index = score.indices cursor.index (score.nextMark cursor.index) := by
  have stages := congrArg (List.map Prod.fst) traverses.stages
  rw [inactive, List.map_map] at stages
  refine stages.trans ?_
  rw [sectionStages, Score.stages, List.map_map]
  exact List.map_id _

theorem count_eq_one (traverses : score.Traverses cursor visits final)
    (fresh : cursor.Fresh score) {index : Nat} (ahead : cursor.index ≤ index)
    (reached : index ≤ score.nextMark cursor.index) (inside : index < score.items.length)
    (single : ¬ score.Repeated index) : (visits.map Visit.index).count index = 1 := by
  cases active : cursor.repeats.opening with
  | none =>
    rw [traverses.indices_eq active, indices, List.count_range', if_pos]
    exact ⟨index - cursor.index, by omega, by omega⟩
  | some opening =>
    obtain ⟨start, opens⟩ := fresh.opening opening active
    rw [start] at ahead reached
    exact absurd ⟨opening, opens, ahead, reached⟩ single

end Traverses

theorem Unfolds.prepend {cursor middle : Cursor} {visits before during after : List Visit}
    {opening : Nat} (unfolds : score.Unfolds middle opening before during after)
    (walk : score.Walk cursor visits middle) (earlier : ∀ visit ∈ visits, visit.index ≤ opening) :
    score.Unfolds cursor opening (visits ++ before) during after := by
  obtain ⟨behind, onward, reached⟩ := unfolds.opened
  refine ⟨?_, ⟨behind, walk.trans onward, reached⟩, ?_, unfolds.passes, unfolds.later⟩
  · simp only [walk.routeFrom_eq, unfolds.route, List.append_assoc]
  · intro visit member
    rcases List.mem_append.mp member with first | rest
    · exact earlier visit first
    · exact unfolds.earlier visit rest

end Score

namespace Cursor.Fresh
variable {score : Score} {cursor : Cursor}

theorem index_le (fresh : cursor.Fresh score) :
    ∀ visit ∈ score.routeFrom cursor, cursor.index ≤ visit.index := by
  refine fresh.induction (motive := fun cursor =>
    ∀ visit ∈ score.routeFrom cursor, cursor.index ≤ visit.index) ?_ ?_
  · intro cursor visits final fresh traverses _ whole visit member
    rw [whole] at member
    exact (traverses.index_mem fresh member).1
  · intro cursor visits final fresh traverses _ _ ih visit member
    rw [traverses.walk.routeFrom_eq] at member
    rcases List.mem_append.mp member with first | rest
    · exact (traverses.index_mem fresh first).1
    · have index := traverses.beyond.index
      have ahead : cursor.index ≤ score.nextMark cursor.index := Nat.le_add_right _ _
      have := ih visit rest
      omega

end Cursor.Fresh

theorem Score.Traverses.later {score : Score} {cursor final : Cursor} {visits : List Visit}
    (traverses : score.Traverses cursor visits final) :
    ∀ visit ∈ score.routeFrom final, score.nextMark cursor.index < visit.index := by
  intro visit member
  have index := traverses.beyond.index
  by_cases inside : score.nextMark cursor.index < score.items.length
  · have := (traverses.beyond.fresh inside).index_le visit member
    omega
  · have past : score.items[final.index]? = none := List.getElem?_eq_none_iff.mpr (by omega)
    rw [Score.routeFrom_of_none past] at member
    cases member

namespace Cursor.Fresh
variable {score : Score} {cursor : Cursor}

private theorem unfolds_next (fresh : cursor.Fresh score) {opening : Nat}
    (active : cursor.repeats.opening = some opening) :
    ∃ during after, score.Unfolds cursor opening [] during after := by
  obtain ⟨visits, final, traverses⟩ := fresh.traverses
  have start := (fresh.opening opening active).1
  refine ⟨visits, score.routeFrom final, traverses.walk.routeFrom_eq,
    ⟨cursor, .stay, start, active, fresh.pass⟩, by simp, ?_, ?_⟩
  · rw [traverses.stages, active, Score.sectionStages, start]
  · rw [← start]
    exact traverses.later

theorem unfolds (fresh : cursor.Fresh score) :
    ∀ opening, cursor.index ≤ opening → score.opensAt opening = true →
      ∃ before during after, score.Unfolds cursor opening before during after := by
  refine fresh.induction (motive := fun cursor =>
    ∀ opening, cursor.index ≤ opening → score.opensAt opening = true →
      ∃ before during after, score.Unfolds cursor opening before during after) ?_ ?_
  · intro cursor visits final fresh traverses ended _ opening ahead opens
    have inside := Score.lt_length_of_opensAt opens
    have reached := Score.nextMark_le_of_opensAt ahead opens
    omega
  · intro cursor visits final fresh traverses inside next ih opening ahead opens
    have reached := Score.nextMark_le_of_opensAt ahead opens
    have earlier : ∀ visit ∈ visits, visit.index ≤ opening := fun visit member =>
      Nat.le_trans (traverses.index_mem fresh member).2 reached
    by_cases here : score.nextMark cursor.index = opening
    · have active := traverses.beyond.opening inside
      rw [here, if_pos opens] at active
      obtain ⟨during, after, unfolds⟩ := next.unfolds_next active
      exact ⟨_, during, after, unfolds.prepend traverses.walk earlier⟩
    · have index := traverses.beyond.index
      obtain ⟨before, during, after, unfolds⟩ := ih opening (by omega) opens
      exact ⟨_, during, after, unfolds.prepend traverses.walk earlier⟩

theorem count_eq_one (fresh : cursor.Fresh score) :
    ∀ index, cursor.index ≤ index → index < score.items.length → ¬ score.Repeated index →
      ((score.routeFrom cursor).map Visit.index).count index = 1 := by
  refine fresh.induction (motive := fun cursor => ∀ index, cursor.index ≤ index →
    index < score.items.length → ¬ score.Repeated index →
      ((score.routeFrom cursor).map Visit.index).count index = 1) ?_ ?_
  · intro cursor visits final fresh traverses ended whole index ahead inside single
    rw [whole]
    exact traverses.count_eq_one fresh ahead (by omega) inside single
  · intro cursor visits final fresh traverses _ next ih index ahead inside single
    rw [traverses.walk.routeFrom_eq, List.map_append, List.count_append]
    by_cases here : index ≤ score.nextMark cursor.index
    · have absent : ((score.routeFrom final).map Visit.index).count index = 0 := by
        refine List.count_eq_zero.mpr fun member => ?_
        obtain ⟨visit, found, rfl⟩ := List.mem_map.mp member
        have := traverses.later visit found
        omega
      rw [traverses.count_eq_one fresh ahead here inside single, absent]
    · have absent : (visits.map Visit.index).count index = 0 := by
        refine List.count_eq_zero.mpr fun member => ?_
        obtain ⟨visit, found, rfl⟩ := List.mem_map.mp member
        have := (traverses.index_mem fresh found).2
        omega
      have past := traverses.beyond.index
      rw [absent, ih index (by omega) inside single]

end Cursor.Fresh

/-- Playback goes through the section behind every opening in its passes, and visits all else
once. -/
theorem Score.route_unfolds (score : Score) :
    (∀ opening, score.opensAt opening = true →
      ∃ before during after, score.Unfolds .start opening before during after) ∧
    ∀ index < score.items.length, ¬ score.Repeated index →
      (score.route.map Visit.index).count index = 1 :=
  have fresh := Cursor.start_fresh score
  ⟨fun opening => fresh.unfolds opening (Nat.zero_le _),
    fun index => fresh.count_eq_one index (Nat.zero_le _)⟩

def Score.threeEndings : Score where
  items := [.note { id := 0 }, .bar (.line .repeatOpen), .bar (.ending { target := 1 }),
    .note { id := 1 }, .bar (.ending { target := 2 }), .bar (.ending { target := 3 })]

theorem Score.route_unfolds_threeEndings :
    (∃ before during after, threeEndings.Unfolds .start 1 before during after) ∧
      (threeEndings.route.map Visit.index).count 0 = 1 ∧
      threeEndings.route.map Visit.index = [0, 1, 2, 3, 4, 2, 3, 4, 5, 2, 3, 4, 5] := by
  have ⟨sections, others⟩ := threeEndings.route_unfolds
  have single : ¬ threeEndings.Repeated 0 := fun ⟨_, _, behind, _⟩ => Nat.not_lt_zero _ behind
  exact ⟨sections 1 rfl, others 0 (by decide) single, by decide +kernel⟩

end ScorePlayback
