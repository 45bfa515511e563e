import ScorePlayback.Proofs.Passes

/-! How long a route can be. A section is gone through as often as the highest target of the score
asks for, or twice, and no item belongs to two sections. -/

namespace ScorePlayback

namespace Score
variable {score : Score}

/-- The largest target of the numbered endings in a score, or 0 if there is no ending. -/
def highestTarget (score : Score) : Int := (score.items.filterMap Item.target?).max?.getD 0

theorem target_le_highestTarget {item : Item} {target : Int} (member : item ∈ score.items)
    (found : item.target? = some target) : target ≤ score.highestTarget := by
  have inside : target ∈ score.items.filterMap Item.target? :=
    List.mem_filterMap.mpr ⟨item, member, found⟩
  cases highest : (score.items.filterMap Item.target?).max? with
  | none =>
    rw [List.max?_eq_none_iff] at highest
    rw [highest] at inside
    cases inside
  | some highest' =>
    rw [highestTarget, highest, Option.getD_some]
    exact (List.max?_eq_some_iff.mp highest).2 target inside

/-- The most passes that any section of a score has. -/
def sectionLimit (score : Score) : Nat := (max 2 score.highestTarget).toNat

theorem passCount_le {opening : Nat} {limit : Int} (twice : 2 ≤ limit)
    (bounded : ∀ item ∈ score.upToMark (opening + 1), ∀ target, item.target? = some target →
      target ≤ limit) : score.passCount opening ≤ limit := by
  refine Int.not_lt.mp fun more => ?_
  have more : limit.toNat < score.passCount opening := by omega
  rcases lt_passCount_iff.mp more with closed | ⟨item, member, exceeds⟩
  · split at closed <;> omega
  · obtain ⟨target, found, less⟩ := (Option.any_eq_true _ _).mp exceeds
    have := bounded item member target found
    rw [decide_eq_true_eq] at less
    omega

private theorem passCount_le_sectionLimit (score : Score) (opening : Nat) :
    score.passCount opening ≤ score.sectionLimit := by
  have bounded : (score.passCount opening : Int) ≤ max 2 score.highestTarget := by
    apply passCount_le (Int.le_max_left ..)
    intro item member target found
    have inside : item ∈ score.items :=
      List.mem_of_mem_drop ((List.takeWhile_sublist _).subset member)
    have := target_le_highestTarget inside found
    omega
  unfold sectionLimit
  omega

theorem length_stages (opening : Option Nat) (pass first last : Nat) :
    (score.stages opening pass first last).length = min (last + 1) score.items.length - first := by
  rw [stages, indices, List.length_map, List.length_range']

private theorem length_flatMap_le {f : Nat → List β} {passes : List Nat} {bound : Nat}
    (bounded : ∀ pass, (f pass).length ≤ bound) :
    (passes.flatMap f).length ≤ passes.length * bound := by
  induction passes with
  | nil => simp
  | cons pass rest ih =>
    have := bounded pass
    rw [List.flatMap_cons, List.length_append, List.length_cons, Nat.succ_mul]
    omega

theorem length_sectionStages_le (score : Score) {active : Option Nat} {start : Nat}
    (right : ∀ opening, active = some opening → start = opening + 1) :
    (score.sectionStages active start).length ≤
      (min (score.nextMark start + 1) score.items.length - start) * score.sectionLimit := by
  have positive : 1 ≤ score.sectionLimit := by
    unfold sectionLimit
    omega
  cases active with
  | none =>
    rw [sectionStages, length_stages]
    exact Nat.le_mul_of_pos_right _ positive
  | some opening =>
    have bounded (pass : Nat) :
        (score.stages (some opening) pass start (score.passEnd opening pass)).length ≤
          min (score.nextMark start + 1) score.items.length - start := by
      have less := score.passEnd_le_nextMark opening pass
      rw [right opening rfl, length_stages]
      omega
    calc
      _ ≤ (List.range' 1 (score.passCount opening)).length *
          (min (score.nextMark start + 1) score.items.length - start) := length_flatMap_le bounded
      _ ≤ _ := by
        rw [List.length_range', Nat.mul_comm]
        exact Nat.mul_le_mul_left _ (score.passCount_le_sectionLimit opening)

end Score

private theorem Cursor.Fresh.length_routeFrom_le {score : Score} {cursor : Cursor}
    (fresh : cursor.Fresh score) :
    (score.routeFrom cursor).length ≤
      (score.items.length - cursor.index) * score.sectionLimit := by
  refine fresh.induction (motive := fun cursor => (score.routeFrom cursor).length ≤
    (score.items.length - cursor.index) * score.sectionLimit) ?_ ?_
  · intro cursor visits final fresh traverses ended whole
    have first := score.length_sectionStages_le fun opening active =>
      (fresh.opening opening active).1
    rw [← traverses.stages, List.length_map] at first
    have end' : min (score.nextMark cursor.index + 1) score.items.length = score.items.length := by
      omega
    rwa [whole, ← end']
  · intro cursor visits final fresh traverses inside _ ih
    have first := score.length_sectionStages_le fun opening active =>
      (fresh.opening opening active).1
    rw [← traverses.stages, List.length_map] at first
    have index := traverses.beyond.index
    have ahead : cursor.index ≤ score.nextMark cursor.index := Nat.le_add_right _ _
    have split : score.items.length - cursor.index =
        (min (score.nextMark cursor.index + 1) score.items.length - cursor.index) +
          (score.items.length - final.index) := by omega
    rw [traverses.walk.routeFrom_eq, List.length_append, split, Nat.add_mul]
    omega

/-- The cursor comes to the end of every score, and on the way it visits each item as often as the
highest target asks for, or twice, at the most. -/
theorem Score.route_ends (score : Score) :
    (∃ final, score.Walk .start score.route final ∧ score.items.length ≤ final.index) ∧
      (score.route.length : Int) ≤ score.items.length * max 2 score.highestTarget := by
  obtain ⟨final, walk, past⟩ := Score.Walk.of_routeFrom score .start
  refine ⟨⟨final, walk, List.getElem?_eq_none_iff.mp past⟩, ?_⟩
  have bounded : score.route.length ≤ score.items.length * score.sectionLimit :=
    (Cursor.start_fresh score).length_routeFrom_le
  have limit : (score.sectionLimit : Int) = max 2 score.highestTarget := by
    unfold sectionLimit
    omega
  rw [← limit]
  exact_mod_cast bounded

end ScorePlayback
