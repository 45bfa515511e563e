import ScorePlayback.Proofs.Measures

/-! A mark that closes one repeat and opens the next, written as two marks. The two scores are
visited in step: where one cursor goes past the single mark, the other one goes past both. -/

namespace ScorePlayback

/-- The closing and the opening mark that a mark for both stands for. -/
def Item.separated : Item → List Item
  | .bar (.line .repeatCloseOpen) => [.bar (.line .repeatClose), .bar (.line .repeatOpen)]
  | item => [item]

namespace Score

/-- What stands for an item when the marks at the chosen places are separated. -/
def piece (chosen : Nat → Bool) (index : Nat) (item : Item) : List Item :=
  if chosen index then item.separated else [item]

def pieces (score : Score) (chosen : Nat → Bool) : List (List Item) :=
  score.items.mapIdx (piece chosen)

def separated (score : Score) (chosen : Nat → Bool) : Score := ⟨(score.pieces chosen).flatten⟩

/-- Where an item is found once the marks are separated. -/
def place (score : Score) (chosen : Nat → Bool) (index : Nat) : Nat :=
  ((score.pieces chosen).take index).flatten.length

variable {score : Score} {chosen : Nat → Bool} {index : Nat} {item : Item}

theorem piece_cases (chosen : Nat → Bool) (index : Nat) (item : Item) :
    piece chosen index item = [item] ∨ item = .bar (.line .repeatCloseOpen) ∧
      piece chosen index item = [.bar (.line .repeatClose), .bar (.line .repeatOpen)] := by
  unfold piece
  split
  next =>
    match item with
    | .bar (.line .repeatCloseOpen) => exact .inr ⟨rfl, rfl⟩
    | .bar (.line .simple) | .bar (.line .repeatOpen) | .bar (.line .repeatClose)
    | .bar (.ending _) => exact .inl rfl
    | .note _ | .chord _ | .key _ | .tempo _ | .absent => exact .inl rfl
  next => exact .inl rfl

theorem drop_place (score : Score) (chosen : Nat → Bool) (index : Nat) :
    (score.separated chosen).items.drop (score.place chosen index) =
      ((score.pieces chosen).drop index).flatten := by
  have whole := congrArg List.flatten (List.take_append_drop index (score.pieces chosen))
  rw [List.flatten_append] at whole
  rw [separated, ← whole, place, List.drop_left]

/-- Where an item is, its piece stands, and right behind it the next one. -/
theorem piece_ahead (chosen : Nat → Bool) (here : score.items[index]? = some item) :
    score.place chosen (index + 1) = score.place chosen index + (piece chosen index item).length ∧
      ∃ rest, (score.separated chosen).items.drop (score.place chosen index) =
        piece chosen index item ++ rest := by
  have found : (score.pieces chosen)[index]? = some (piece chosen index item) := by
    rw [pieces, List.getElem?_mapIdx, here, Option.map_some]
  obtain ⟨inside, same⟩ := List.getElem?_eq_some_iff.mp found
  refine ⟨?_, ((score.pieces chosen).drop (index + 1)).flatten, ?_⟩
  · rw [place, List.take_succ_eq_append_getElem inside, same, List.flatten_append,
      List.length_append, List.flatten_singleton, place]
  · rw [drop_place, List.drop_eq_getElem_cons inside, same, List.flatten_cons]

theorem separated_past (chosen : Nat → Bool) (past : score.items[index]? = none) :
    (score.separated chosen).items[score.place chosen index]? = none := by
  have long := List.getElem?_eq_none_iff.mp past
  rw [← List.head?_drop, drop_place, List.drop_eq_nil_of_le]
  · rfl
  · rwa [pieces, List.length_mapIdx]

/-- A mark holds no notes, so the partners of ties stay. -/
theorem find?_separated (score : Score) (chosen : Nat → Bool) :
    (score.separated chosen).find? = score.find? := by
  funext id
  obtain ⟨items⟩ := score
  simp only [find?, separated, pieces]
  induction items generalizing chosen with
  | nil => rfl
  | cons item rest ih =>
    have later := ih (chosen ∘ (· + 1))
    have shifted : (fun index => piece chosen (index + 1)) = piece (chosen ∘ (· + 1)) := rfl
    rw [List.mapIdx_cons, List.flatten_cons, List.findSome?_append, List.findSome?_cons, shifted,
      later]
    rcases piece_cases chosen 0 item with single | ⟨rfl, double⟩
    · rw [single, List.findSome?_cons, List.findSome?_nil]
      cases item.notes.find? (·.id == id) <;> rfl
    · rw [double]
      rfl

end Score

namespace RepeatState
variable {score : Score} {chosen : Nat → Bool} {state other : RepeatState} {item : Item}

/-- The same state, but for the place of the opening. -/
structure InStep (score : Score) (chosen : Nat → Bool) (state other : RepeatState) : Prop where
  opening : other.opening.map (· + 1) =
    state.opening.map fun opening => score.place chosen (opening + 1)
  pass : other.pass = state.pass
  skipping : other.skipping = state.skipping

namespace InStep

theorem sentBack? (inStep : InStep score chosen state other) {mark : Item}
    (passes : mark.passes = item.passes) :
    (other.sentBack? mark).map (· + 1) =
      (state.sentBack? item).map fun opening => score.place chosen (opening + 1) := by
  rw [sentBack?_eq, sentBack?_eq, passes, inStep.pass]
  split
  next => exact inStep.opening
  next => rfl

theorem past (inStep : InStep score chosen state other) {index place : Nat}
    (single : place + 1 = score.place chosen (index + 1)) (item : Item) :
    InStep score chosen (state.past index item) (other.past place item) := by
  obtain ⟨opening, pass, skipping⟩ := inStep
  match item with
  | .bar (.ending numbered) =>
    refine ⟨opening, pass, ?_⟩
    simp only [RepeatState.past, onward, pass]
  | .bar (.line .repeatClose) => exact ⟨rfl, rfl, skipping⟩
  | .bar (.line .repeatOpen) => exact ⟨congrArg some single, rfl, skipping⟩
  | .bar (.line .repeatCloseOpen) => exact ⟨congrArg some single, rfl, skipping⟩
  | .bar (.line .simple) => exact ⟨opening, pass, skipping⟩
  | .note _ | .chord _ | .key _ | .tempo _ | .absent => exact ⟨opening, pass, skipping⟩

end InStep

end RepeatState

namespace Cursor
variable {score : Score} {chosen : Nat → Bool} {cursor other : Cursor} {item mark : Item}

/-- At the same item of the score and of the score with separated marks. -/
structure InStep (score : Score) (chosen : Nat → Bool) (cursor other : Cursor) : Prop where
  index : other.index = score.place chosen cursor.index
  repeats : cursor.repeats.InStep score chosen other.repeats

namespace InStep

theorem start : Cursor.start.InStep score chosen .start := ⟨rfl, rfl, rfl, rfl⟩

theorem next_of_sentBack (inStep : cursor.InStep score chosen other) {target : Nat}
    (passes : mark.passes = item.passes) (back : cursor.repeats.sentBack? item = some target) :
    (cursor.next item).InStep score chosen (other.next mark) := by
  have both := inStep.repeats.sentBack? passes
  rw [back, Option.map_some] at both
  obtain ⟨place, sent, behind⟩ := Option.map_eq_some_iff.mp both
  obtain ⟨index, repeats⟩ := Cursor.next_of_sentBack back
  obtain ⟨otherIndex, otherRepeats⟩ := Cursor.next_of_sentBack sent
  refine ⟨by rw [otherIndex, index, behind], ?_⟩
  rw [repeats, otherRepeats]
  exact ⟨inStep.repeats.opening, congrArg (· + 1) inStep.repeats.pass, inStep.repeats.skipping⟩

theorem sentBack?_eq_none (inStep : cursor.InStep score chosen other)
    (passes : mark.passes = item.passes) (passed : cursor.repeats.sentBack? item = none) :
    other.repeats.sentBack? mark = none := by
  have both := inStep.repeats.sentBack? passes
  rw [passed, Option.map_none] at both
  exact Option.map_eq_none_iff.mp both

theorem next (inStep : cursor.InStep score chosen other)
    (single : other.index + 1 = score.place chosen (cursor.index + 1)) (item : Item) :
    (cursor.next item).InStep score chosen (other.next item) := by
  cases back : cursor.repeats.sentBack? item with
  | some target => exact inStep.next_of_sentBack rfl back
  | none =>
    obtain ⟨index, repeats⟩ := next_of_passed back
    obtain ⟨otherIndex, otherRepeats⟩ := next_of_passed (inStep.sentBack?_eq_none rfl back)
    refine ⟨by rw [otherIndex, index, single], ?_⟩
    rw [repeats, otherRepeats]
    exact inStep.repeats.past single item

/-- Past the mark for both on one side, and past the two marks on the other. -/
private theorem next_next (inStep : cursor.InStep score chosen other)
    (double : other.index + 2 = score.place chosen (cursor.index + 1))
    (passed : cursor.repeats.sentBack? (.bar (.line .repeatCloseOpen)) = none) :
    (cursor.next (.bar (.line .repeatCloseOpen))).InStep score chosen
      ((other.next (.bar (.line .repeatClose))).next (.bar (.line .repeatOpen))) := by
  have closed : other.repeats.sentBack? (.bar (.line .repeatClose)) = none :=
    inStep.sentBack?_eq_none rfl passed
  obtain ⟨index, repeats⟩ := next_of_passed passed
  obtain ⟨closeIndex, closeRepeats⟩ := next_of_passed closed
  have opened : (other.next (.bar (.line .repeatClose))).repeats.sentBack?
      (.bar (.line .repeatOpen)) = none := by
    rw [closeRepeats]
    rfl
  obtain ⟨openIndex, openRepeats⟩ := next_of_passed opened
  refine ⟨by rw [openIndex, closeIndex, index, double], ?_⟩
  rw [repeats, openRepeats, closeRepeats, closeIndex]
  exact ⟨congrArg some double, rfl, inStep.repeats.skipping⟩

end InStep

end Cursor

/-- What is performed up to a cursor in step sounds like the visit of one item. -/
structure Cursor.Answers (score : Score) (chosen : Nat → Bool) (cursor other : Cursor) (item : Item)
    (items : List Item) (after : Cursor) : Prop where
  performed : (score.separated chosen).performedFrom other =
    items ++ (score.separated chosen).performedFrom after
  alike : ∀ rest, Alike (items ++ rest)
    ((Visit.performed ⟨cursor.index, item, cursor.repeats⟩).toList ++ rest)
  inStep : (cursor.next item).InStep score chosen after

namespace Cursor.InStep
variable {score : Score} {chosen : Nat → Bool} {cursor other : Cursor} {item : Item}
  {rest : List Item}

private theorem answers_single (inStep : cursor.InStep score chosen other)
    (length : score.place chosen (cursor.index + 1) = other.index + 1)
    (ahead : (score.separated chosen).items.drop other.index = item :: rest) :
    cursor.Answers score chosen other item
      (Visit.performed ⟨cursor.index, item, cursor.repeats⟩).toList (other.next item) := by
  have there : (score.separated chosen).items[other.index]? = some item := by
    rw [← List.head?_drop, ahead, List.head?_cons]
  refine ⟨?_, fun _ => .refl _, inStep.next length.symm item⟩
  rw [Score.performedFrom_of_some there, Visit.performed_congr inStep.repeats.skipping]

private theorem answers_double (inStep : cursor.InStep score chosen other)
    (length : score.place chosen (cursor.index + 1) = other.index + 2)
    (ahead : (score.separated chosen).items.drop other.index =
      .bar (.line .repeatClose) :: .bar (.line .repeatOpen) :: rest) :
    ∃ items after,
      cursor.Answers score chosen other (.bar (.line .repeatCloseOpen)) items after := by
  have closing : (score.separated chosen).items[other.index]? =
      some (.bar (.line .repeatClose)) := by
    rw [← List.head?_drop, ahead, List.head?_cons]
  have closed := Score.performedFrom_bar closing
  cases back : cursor.repeats.sentBack? (.bar (.line .repeatCloseOpen)) with
  | some target =>
    exact ⟨[.barLine], _, closed, fun _ => .refl _, inStep.next_of_sentBack rfl back⟩
  | none =>
    have passed : other.repeats.sentBack? (.bar (.line .repeatClose)) = none :=
      inStep.sentBack?_eq_none rfl back
    have opening : (score.separated chosen).items[
        (other.next (.bar (.line .repeatClose))).index]? = some (.bar (.line .repeatOpen)) := by
      rw [(Cursor.next_of_passed passed).1, ← List.head?_drop, ← List.drop_drop, ahead]
      rfl
    rw [Score.performedFrom_bar opening] at closed
    exact ⟨[.barLine, .barLine], _, closed, fun rest => .repeated_bar rest,
      inStep.next_next length.symm back⟩

private theorem exists_answers (inStep : cursor.InStep score chosen other)
    (here : score.items[cursor.index]? = some item) :
    ∃ items after, cursor.Answers score chosen other item items after := by
  obtain ⟨length, rest, ahead⟩ := Score.piece_ahead chosen here
  rw [← inStep.index] at length ahead
  rcases Score.piece_cases chosen cursor.index item with single | ⟨rfl, double⟩
  · rw [single] at length ahead
    exact ⟨_, _, inStep.answers_single length ahead⟩
  · rw [double] at length ahead
    exact inStep.answers_double length ahead

/-- From cursors in step on the same is heard. -/
theorem alike (inStep : cursor.InStep score chosen other) :
    Alike ((score.separated chosen).performedFrom other) (score.performedFrom cursor) := by
  induction cursor using Score.routeFrom.induct score generalizing other with
  | case1 cursor past =>
    have ended := Score.separated_past chosen past
    rw [← inStep.index] at ended
    rw [Score.performedFrom_of_none past, Score.performedFrom_of_none ended]
    exact .refl []
  | case2 cursor item here ih =>
    obtain ⟨items, after, answers⟩ := inStep.exists_answers here
    rw [answers.performed, Score.performedFrom_of_some here]
    exact (answers.alike _).trans ((ih answers.inStep).append_left _)

end Cursor.InStep

/-- Marks that close a repeat and open the next one sound like two marks, wherever they stand. -/
theorem Converter.convert_separated {ε : Type} [Encodes ε] (converter : Converter ε)
    (score : Score) (chosen : Nat → Bool) :
    (converter.convert (score.separated chosen)).result = (converter.convert score).result :=
  converter.result_eq_of_alike (score.find?_separated chosen) (Cursor.InStep.start.alike.cons _)

end ScorePlayback
