import ScorePlayback.Proofs.Continuation

/-! Voltas: numbered endings that follow one another, each played on the pass of its number. -/

namespace ScorePlayback

structure Volta where
  ending : Ending
  items : List Item
  plain : ∀ item ∈ items, item.isPlain = true

def Volta.bracketed (volta : Volta) : List Item := .bar (.ending volta.ending) :: volta.items

/-- The endings are for one pass after the other. -/
def Volta.Numbered (pass : Nat) : List Volta → Prop
  | [] => True
  | volta :: rest => volta.ending.target = pass ∧ Numbered (pass + 1) rest

theorem Volta.Numbered.le {pass : Nat} {voltas : List Volta} (numbered : Numbered pass voltas) :
    ∀ volta ∈ voltas, pass ≤ volta.ending.target := by
  induction voltas generalizing pass with
  | nil => simp
  | cons first rest ih =>
    intro volta member
    rcases List.mem_cons.mp member with rfl | later
    · exact Int.le_of_eq numbered.1.symm
    · have := ih numbered.2 volta later
      omega

/-- A body that is played again and again, each time with another ending. -/
structure Strophes where
  body : List Item
  voltas : List Volta
  plain : ∀ item ∈ body, item.isPlain = true
  nonempty : voltas ≠ []
  numbered : Volta.Numbered 1 voltas

/-- Three strophes of two notes each. -/
def Strophes.threefold : Strophes where
  body := [.note { id := 0 }]
  voltas := [
    ⟨{ target := 1 }, [.note { id := 1, letter := .d }], by decide⟩,
    ⟨{ target := 2 }, [.note { id := 2, letter := .e }], by decide⟩,
    ⟨{ target := 3 }, [.note { id := 3, letter := .f }], by decide⟩]
  plain := by decide
  nonempty := List.cons_ne_nil _ _
  numbered := ⟨rfl, rfl, rfl, trivial⟩

/-- A front that is found again and again is only searched once. -/
theorem find?_flatMap_front {α β : Type} (p : β → Bool) (front : List β) (f : α → List β)
    {items : List α} (nonempty : items ≠ []) :
    (items.flatMap fun item => front ++ f item).find? p = (front ++ items.flatMap f).find? p := by
  cases found : front.find? p with
  | some first =>
    obtain ⟨item, rest, rfl⟩ := List.exists_cons_of_ne_nil nonempty
    simp only [List.flatMap_cons, List.find?_append, found, Option.some_or]
  | none => simp only [List.find?_flatMap, List.find?_append, found, Option.none_or]

theorem Score.find?_eq (score : Score) (id : Nat) :
    score.find? id = (score.items.flatMap Item.notes).find? (·.id == id) :=
  List.find?_flatMap.symm

theorem Item.notes_bar (bar : Bar) : (Item.bar bar).notes = [] := rfl

namespace Score.Continues
variable {score : Score} {repeats : RepeatState} {ahead items : List Item} {volta : Volta}

theorem volta_played (passed : repeats.sentBack? (.bar (.ending volta.ending)) = none)
    (due : repeats.pass ≤ volta.ending.target)
    (rest : score.Continues { repeats with skipping := false } ahead items) :
    score.Continues repeats (volta.bracketed ++ ahead) (.barLine :: volta.items ++ items) := by
  refine step passed fun index _ => ?_
  have playing : repeats.past index (.bar (.ending volta.ending)) =
      { repeats with skipping := false } := by
    simp only [RepeatState.past, RepeatState.onward, decide_eq_false (Int.not_lt.mpr due)]
  rw [playing]
  exact rest.played volta.plain rfl

theorem volta_skipped (expired : volta.ending.target < repeats.pass)
    (rest : score.Continues { repeats with skipping := true } ahead (.barLine :: items)) :
    score.Continues repeats (volta.bracketed ++ ahead) (.barLine :: items) := by
  have passed : repeats.sentBack? (.bar (.ending volta.ending)) = none :=
    RepeatState.sentBack?_eq_none_iff.mpr (.inr (Int.le_of_lt expired))
  refine (step passed fun index _ => ?_).trans (.repeated_bar items)
  have skipping : repeats.past index (.bar (.ending volta.ending)) =
      { repeats with skipping := true } := by
    simp only [RepeatState.past, RepeatState.onward, decide_eq_true expired]
  rw [skipping]
  exact rest.skipped volta.plain rfl

/-- The voltas of earlier passes are skipped one after the other. -/
private theorem voltas_skipped {gone : List Volta}
    (expired : ∀ volta ∈ gone, volta.ending.target < repeats.pass)
    (rest : ∀ skipping, score.Continues { repeats with skipping } ahead (.barLine :: items)) :
    score.Continues repeats (gone.flatMap Volta.bracketed ++ ahead) (.barLine :: items) := by
  induction gone generalizing repeats with
  | nil => exact rest repeats.skipping
  | cons volta more ih =>
    rw [List.flatMap_cons, List.append_assoc]
    refine volta_skipped (expired volta List.mem_cons_self) (ih ?_ rest)
    exact fun other member => expired other (List.mem_cons_of_mem _ member)

end Score.Continues

namespace Strophes
variable {score : Score} {body ahead items : List Item} {opening : Option Nat} {pass : Nat}
  {gone rest : List Volta} {volta : Volta}

/-- One pass: after the body the voltas of earlier passes are skipped and that of the pass is
played. -/
theorem continues_pass (plain : ∀ item ∈ body, item.isPlain = true)
    (expired : ∀ volta ∈ gone, volta.ending.target < pass) (due : volta.ending.target = pass)
    (later : score.Continues ⟨opening, pass, false⟩ ahead items) :
    score.Continues ⟨opening, pass, false⟩
      (body ++ (gone.flatMap Volta.bracketed ++ (volta.bracketed ++ ahead)))
      (body ++ .barLine :: (volta.items ++ items)) := by
  refine .played plain rfl (.voltas_skipped expired fun skipping => ?_)
  refine .volta_played ?_ (Int.le_of_eq due.symm) later
  exact RepeatState.sentBack?_eq_none_iff.mpr (.inr (Int.le_of_eq due))

end Strophes

end ScorePlayback
