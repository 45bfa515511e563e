import ScorePlayback.Proofs.WrittenOut

/-! Bar lines that stand together. The first of them restores the declared key and the others change
nothing, so performances that differ only in how many there are sound alike. -/

namespace ScorePlayback

/-- The plain bar line that every bar is performed as. -/
def Item.barLine : Item := .bar (.line .simple)

/-- Items of which the same is heard, whatever was performed before them. -/
def Alike (first second : List Item) : Prop :=
  ∀ (score : Score) (resolution : Int) (head : Playhead),
    head.perform score resolution first = head.perform score resolution second

namespace Alike
variable {first second third : List Item}

theorem refl (items : List Item) : Alike items items := fun _ _ _ => rfl

theorem trans (start : Alike first second) (rest : Alike second third) : Alike first third :=
  fun score resolution head => (start score resolution head).trans (rest score resolution head)

theorem cons (item : Item) (alike : Alike first second) :
    Alike (item :: first) (item :: second) := by
  intro score resolution head
  simp only [Playhead.perform, alike score resolution]

theorem append_left (items : List Item) (alike : Alike first second) :
    Alike (items ++ first) (items ++ second) := by
  induction items with
  | nil => exact alike
  | cons item rest ih => exact ih.cons item

theorem repeated_bar (rest : List Item) :
    Alike (.barLine :: .barLine :: rest) (.barLine :: rest) := fun _ _ _ => rfl

end Alike

/-- A bar line before everything else is not heard. -/
theorem Playhead.perform_barLine_start (score : Score) (resolution : Int) (items : List Item) :
    ({} : Playhead).perform score resolution (.barLine :: items) =
      ({} : Playhead).perform score resolution items := rfl

/-- Scores that are performed alike and hold the same partners of ties are converted with the same
result. -/
theorem Converter.result_eq_of_alike {ε : Type} [Encodes ε] (converter : Converter ε)
    {score other : Score}
    (partners : score.find? = other.find?)
    (alike : Alike (.barLine :: score.performed) (.barLine :: other.performed)) :
    (converter.convert score).result = (converter.convert other).result := by
  refine converter.result_eq_of_heard ?_
  rw [Score.heard_script, Score.heard_script, ← Playhead.perform_barLine_start,
    alike score converter.resolution, Playhead.perform_barLine_start]
  refine Playhead.perform_congr {} fun item member note timed => ?_
  exact Note.ticks_congr converter.resolution fun _ => by rw [partners]

theorem Visit.performed_congr {first second : RepeatState} (same : second.skipping = first.skipping)
    (index other : Nat) (item : Item) :
    Visit.performed ⟨other, item, second⟩ = Visit.performed ⟨index, item, first⟩ := by
  cases item with
  | bar => rfl
  | note | chord | key | tempo | absent => simp only [Visit.performed, same]

namespace Score

def performedFrom (score : Score) (cursor : Cursor) : List Item :=
  (score.routeFrom cursor).filterMap Visit.performed

variable {score : Score} {cursor : Cursor} {item : Item}

theorem performedFrom_of_none (past : score.items[cursor.index]? = none) :
    score.performedFrom cursor = [] := by
  rw [performedFrom, routeFrom_of_none past, List.filterMap_nil]

theorem performedFrom_of_some (here : score.items[cursor.index]? = some item) :
    score.performedFrom cursor =
      (Visit.performed ⟨cursor.index, item, cursor.repeats⟩).toList
        ++ score.performedFrom (cursor.next item) := by
  rw [performedFrom, routeFrom_of_some here, List.filterMap_cons]
  cases Visit.performed ⟨cursor.index, item, cursor.repeats⟩ <;> rfl

theorem performedFrom_bar {bar : Bar} (here : score.items[cursor.index]? = some (.bar bar)) :
    score.performedFrom cursor = .barLine :: score.performedFrom (cursor.next (.bar bar)) :=
  performedFrom_of_some here

end Score

end ScorePlayback
