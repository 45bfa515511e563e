import ScorePlayback.Proofs.Measures

/-! What is heard from some point of a score on. The state of the repeats and the items ahead decide
it, and each rule adds what playback goes through next. -/

namespace ScorePlayback

/-- With these repeats and these items ahead, playback goes on as if `items` were performed. -/
def Score.Continues (score : Score) (repeats : RepeatState) (ahead items : List Item) : Prop :=
  ∀ cursor : Cursor, cursor.repeats = repeats → score.items.drop cursor.index = ahead →
    Alike (score.performedFrom cursor) items

namespace Score.Continues
variable {score : Score} {repeats : RepeatState} {ahead items other front : List Item}

theorem trans (continues : score.Continues repeats ahead items) (alike : Alike items other) :
    score.Continues repeats ahead other :=
  fun cursor same rest => (continues cursor same rest).trans alike

theorem nil : score.Continues repeats [] [] := by
  intro cursor _ rest
  have past : score.items[cursor.index]? = none := by rw [← List.head?_drop, rest, List.head?_nil]
  rw [performedFrom_of_none past]
  exact .refl []

/-- An opening that is passed is gone back to by its index, behind which lies what is ahead. -/
theorem step {item : Item} (passed : repeats.sentBack? item = none)
    (rest : ∀ index, score.items.drop (index + 1) = ahead →
      score.Continues (repeats.past index item) ahead items) :
    score.Continues repeats (item :: ahead)
      ((Visit.performed ⟨0, item, repeats⟩).toList ++ items) := by
  intro cursor same split
  subst same
  have here : score.items[cursor.index]? = some item := by
    rw [← List.head?_drop, split, List.head?_cons]
  have behind : score.items.drop (cursor.index + 1) = ahead := by
    rw [← List.drop_drop, split, List.drop_one, List.tail_cons]
  obtain ⟨index, state⟩ := Cursor.next_of_passed passed
  rw [performedFrom_of_some here]
  exact (rest cursor.index behind _ state (by rw [index, behind])).append_left _

theorem sentBack {bar : Bar} {opening : Nat} (back : repeats.sentBack? (.bar bar) = some opening)
    (rest : score.Continues repeats.rewind (score.items.drop (opening + 1)) items) :
    score.Continues repeats (.bar bar :: ahead) (.barLine :: items) := by
  intro cursor same split
  subst same
  have here : score.items[cursor.index]? = some (.bar bar) := by
    rw [← List.head?_drop, split, List.head?_cons]
  obtain ⟨index, state⟩ := Cursor.next_of_sentBack back
  rw [performedFrom_bar here]
  exact (rest _ state (by rw [index])).cons _

theorem played (plain : ∀ item ∈ front, item.isPlain = true) (playing : repeats.skipping = false)
    (rest : score.Continues repeats ahead items) :
    score.Continues repeats (front ++ ahead) (front ++ items) := by
  induction front with
  | nil => exact rest
  | cons item more ih =>
    have first := plain item List.mem_cons_self
    have later := ih fun other member => plain other (List.mem_cons_of_mem _ member)
    have performed := Visit.performed_of_isPlain first playing 0
    have passed := RepeatState.sentBack?_of_isPlain first repeats
    have stepped := step passed fun index _ => by
      rw [RepeatState.past_of_isPlain first]
      exact later
    rw [performed] at stepped
    exact stepped

/-- Of items that are skipped the bar lines remain, and the next bar line stands for all of them. -/
theorem skipped (plain : ∀ item ∈ front, item.isPlain = true) (skipping : repeats.skipping = true)
    (rest : score.Continues repeats ahead (.barLine :: items)) :
    score.Continues repeats (front ++ ahead) (.barLine :: items) := by
  induction front with
  | nil => exact rest
  | cons item more ih =>
    have first := plain item List.mem_cons_self
    have later := ih fun other member => plain other (List.mem_cons_of_mem _ member)
    have passed := RepeatState.sentBack?_of_isPlain first repeats
    have stepped := step passed fun index _ => by
      rw [RepeatState.past_of_isPlain first]
      exact later
    cases item with
    | bar bar => exact stepped.trans (Alike.repeated_bar _)
    | note | chord | key | tempo | absent =>
      simpa [Visit.performed, skipping] using stepped

end Score.Continues

/-- A score that begins with an opening is performed as its repeat goes on. -/
theorem Score.performed_of_opened {score : Score} {ahead items : List Item}
    (opens : score.items = .bar (.line .repeatOpen) :: ahead)
    (rest : ∀ opening, score.items.drop (opening + 1) = ahead →
      score.Continues ⟨some opening, 1, false⟩ (score.items.drop (opening + 1)) items) :
    Alike score.performed (.barLine :: items) := by
  have whole : score.Continues {} (.bar (.line .repeatOpen) :: ahead) (.barLine :: items) :=
    .step rfl fun opening behind => behind ▸ rest opening behind
  exact whole .start rfl opens

end ScorePlayback
