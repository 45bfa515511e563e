import ScorePlayback.Performance.Route

/-! Walks of the cursor, visit by visit. Over items that neither send playback back nor mark a
repeat a walk goes straight on, with the same opening and the same pass. -/

namespace ScorePlayback

/-- From one cursor to another by these visits, with one step for each. -/
inductive Score.Walk (score : Score) : Cursor → List Visit → Cursor → Prop
  | stay {cursor} : score.Walk cursor [] cursor
  | step {cursor final item visits} (here : score.items[cursor.index]? = some item)
      (rest : score.Walk (cursor.next item) visits final) :
      score.Walk cursor (⟨cursor.index, item, cursor.repeats⟩ :: visits) final

namespace Score.Walk
variable {score : Score}

theorem trans {before middle after : Cursor} {first second : List Visit}
    (start : score.Walk before first middle) (rest : score.Walk middle second after) :
    score.Walk before (first ++ second) after := by
  induction start with
  | stay => exact rest
  | step here _ ih => exact .step here (ih rest)

private theorem of_append {before after : Cursor} {first second : List Visit}
    (walk : score.Walk before (first ++ second) after) :
    ∃ middle, score.Walk before first middle ∧ score.Walk middle second after := by
  induction first generalizing before with
  | nil => exact ⟨before, .stay, walk⟩
  | cons visit more ih =>
    cases walk with
    | step here rest =>
      obtain ⟨middle, start, rest⟩ := ih rest
      exact ⟨middle, .step here start, rest⟩

/-- Every visit of a walk is made by the cursor that the visits before it have led to. -/
theorem exists_cursor {before after : Cursor} {front rest : List Visit} {visit : Visit}
    (walk : score.Walk before (front ++ visit :: rest) after) :
    ∃ cursor, score.Walk before front cursor ∧
      visit.index = cursor.index ∧ visit.repeats = cursor.repeats ∧
      score.items[cursor.index]? = some visit.item ∧
      score.Walk (cursor.next visit.item) rest after := by
  obtain ⟨cursor, start, onward⟩ := walk.of_append
  cases onward with
  | step here later => exact ⟨cursor, start, rfl, rfl, here, later⟩

theorem routeFrom_eq {before after : Cursor} {visits : List Visit}
    (walk : score.Walk before visits after) :
    score.routeFrom before = visits ++ score.routeFrom after := by
  induction walk with
  | stay => rfl
  | step here _ ih => rw [Score.routeFrom_of_some here, ih, List.cons_append]

theorem getElem?_of_mem {before after : Cursor} {visits : List Visit}
    (walk : score.Walk before visits after) {visit : Visit} (member : visit ∈ visits) :
    score.items[visit.index]? = some visit.item := by
  induction walk with
  | stay => cases member
  | step here _ ih =>
    rcases List.mem_cons.mp member with rfl | rest
    · exact here
    · exact ih rest

/-- The route from a cursor on is a walk that ends where there is no item. -/
theorem of_routeFrom (score : Score) (cursor : Cursor) :
    ∃ final, score.Walk cursor (score.routeFrom cursor) final ∧
      score.items[final.index]? = none := by
  fun_induction Score.routeFrom score cursor with
  | case1 cursor past => exact ⟨cursor, .stay, past⟩
  | case2 cursor item here ih =>
    obtain ⟨final, walk, past⟩ := ih
    exact ⟨final, .step here walk, past⟩

end Score.Walk

/-- The marks that bound the sections of a score: repeat bars, but not numbered endings. -/
def Item.isMark : Item → Bool
  | .bar (.line .repeatOpen) => true
  | .bar (.line .repeatClose) => true
  | .bar (.line .repeatCloseOpen) => true
  | _ => false

namespace RepeatState

/-- Where an item sends playback back to, if it does. -/
def sentBack? (state : RepeatState) : Item → Option Nat
  | .bar bar => state.back? bar
  | _ => none

def past (state : RepeatState) (index : Nat) : Item → RepeatState
  | .bar bar => state.onward (some index) bar
  | _ => state

theorem sentBack?_eq (state : RepeatState) (item : Item) :
    state.sentBack? item = if state.pass < item.passes then state.opening else none := by
  cases item with
  | bar bar => rfl
  | note | chord | key | tempo | absent =>
    exact (if_neg (Int.not_lt.mpr (Int.natCast_nonneg _))).symm

theorem sentBack?_eq_some_iff {state : RepeatState} {item : Item} {target : Nat} :
    state.sentBack? item = some target ↔
      state.pass < item.passes ∧ state.opening = some target := by
  cases item with
  | bar bar => exact back?_eq_some_iff
  | note | chord | key | tempo | absent =>
    refine ⟨nofun, fun ⟨more, _⟩ => ?_⟩
    exact absurd more (Int.not_lt.mpr (Int.natCast_nonneg _))

theorem sentBack?_eq_none_iff {state : RepeatState} {item : Item} :
    state.sentBack? item = none ↔ state.opening = none ∨ item.passes ≤ state.pass := by
  rw [Option.eq_none_iff_forall_ne_some]
  simp only [ne_eq, sentBack?_eq_some_iff, not_and]
  cases state.opening with
  | none => simp
  | some opening => simp

theorem past_opening {state : RepeatState} {item : Item} (plain : item.isMark = false)
    (index : Nat) : (state.past index item).opening = state.opening := by
  match item with
  | .bar (.ending _) => rfl
  | .bar (.line .simple) => rfl
  | .note _ | .chord _ | .key _ | .tempo _ | .absent => rfl

theorem past_pass {state : RepeatState} {item : Item} (plain : item.isMark = false)
    (index : Nat) : (state.past index item).pass = state.pass := by
  match item with
  | .bar (.ending _) => rfl
  | .bar (.line .simple) => rfl
  | .note _ | .chord _ | .key _ | .tempo _ | .absent => rfl

/-- Items without marks of which none sends playback back. -/
def Straight (state : RepeatState) (items : List Item) : Prop :=
  ∀ item ∈ items, item.isMark = false ∧ state.sentBack? item = none

theorem Straight.tail {state : RepeatState} {item : Item} {items : List Item}
    (straight : state.Straight (item :: items)) (index : Nat) :
    (state.past index item).Straight items := by
  have plain := (straight item List.mem_cons_self).1
  intro other member
  have passed := straight other (List.mem_cons_of_mem _ member)
  rw [sentBack?_eq_none_iff] at passed ⊢
  rw [past_opening plain, past_pass plain]
  exact passed

end RepeatState

namespace Cursor

theorem next_of_sentBack {cursor : Cursor} {item : Item} {target : Nat}
    (back : cursor.repeats.sentBack? item = some target) :
    (cursor.next item).index = target + 1 ∧
      (cursor.next item).repeats = cursor.repeats.rewind := by
  cases item with
  | bar bar =>
    simp only [RepeatState.sentBack?] at back
    simp only [next]
    split
    next found =>
      rw [back] at found
      cases found
      exact ⟨rfl, rfl⟩
    next missing => rw [back] at missing; cases missing
  | note | chord | key | tempo | absent => cases back

theorem next_of_passed {cursor : Cursor} {item : Item}
    (passed : cursor.repeats.sentBack? item = none) :
    (cursor.next item).index = cursor.index + 1 ∧
      (cursor.next item).repeats = cursor.repeats.past cursor.index item := by
  cases item with
  | bar bar =>
    simp only [RepeatState.sentBack?] at passed
    simp only [next]
    split
    next found => rw [passed] at found; cases found
    next => exact ⟨rfl, rfl⟩
  | note | chord | key | tempo | absent => exact ⟨rfl, rfl⟩

/-- The cursor after it has visited items one after the other. -/
def run (cursor : Cursor) (items : List Item) : Cursor := items.foldl next cursor

def visits (cursor : Cursor) : List Item → List Visit
  | [] => []
  | item :: rest => ⟨cursor.index, item, cursor.repeats⟩ :: (cursor.next item).visits rest

theorem visits_append (cursor : Cursor) (first second : List Item) :
    cursor.visits (first ++ second) = cursor.visits first ++ (cursor.run first).visits second := by
  induction first generalizing cursor with
  | nil => rfl
  | cons item rest ih => exact congrArg _ (ih (cursor.next item))

end Cursor

/-- Where a visit falls: its index, the opening of the active repeat, and the pass through it. -/
def Visit.stage (visit : Visit) : Nat × Option Nat × Nat :=
  (visit.index, visit.repeats.opening, visit.repeats.pass)

namespace RepeatState.Straight
variable {cursor : Cursor} {item : Item} {items : List Item}

theorem next (straight : cursor.repeats.Straight (item :: items)) :
    (cursor.next item).index = cursor.index + 1 ∧
      (cursor.next item).repeats.opening = cursor.repeats.opening ∧
      (cursor.next item).repeats.pass = cursor.repeats.pass ∧
      (cursor.next item).repeats.Straight items := by
  obtain ⟨plain, passed⟩ := straight item List.mem_cons_self
  obtain ⟨index, repeats⟩ := Cursor.next_of_passed passed
  rw [repeats]
  exact ⟨index, past_opening plain _, past_pass plain _, straight.tail _⟩

theorem run (straight : cursor.repeats.Straight items) :
    (cursor.run items).index = cursor.index + items.length ∧
      (cursor.run items).repeats.opening = cursor.repeats.opening ∧
      (cursor.run items).repeats.pass = cursor.repeats.pass := by
  induction items generalizing cursor with
  | nil => exact ⟨rfl, rfl, rfl⟩
  | cons item rest ih =>
    obtain ⟨index, opening, pass, straight⟩ := straight.next
    obtain ⟨finalIndex, finalOpening, finalPass⟩ := ih straight
    refine ⟨?_, finalOpening.trans opening, finalPass.trans pass⟩
    rw [Cursor.run, List.foldl_cons, ← Cursor.run, finalIndex, index, List.length_cons]
    omega

theorem walk {score : Score} {rest : List Item} (straight : cursor.repeats.Straight items)
    (ahead : score.items.drop cursor.index = items ++ rest) :
    score.Walk cursor (cursor.visits items) (cursor.run items) := by
  induction items generalizing cursor with
  | nil => exact .stay
  | cons item more ih =>
    obtain ⟨index, -, -, straight⟩ := straight.next
    have here : score.items[cursor.index]? = some item := by
      rw [← List.head?_drop, ahead, List.cons_append, List.head?_cons]
    refine .step here (ih straight ?_)
    rw [index, ← List.drop_drop, ahead, List.cons_append, List.drop_one, List.tail_cons]

theorem stages (straight : cursor.repeats.Straight items) :
    (cursor.visits items).map Visit.stage =
      (List.range' cursor.index items.length).map
        fun index => (index, cursor.repeats.opening, cursor.repeats.pass) := by
  induction items generalizing cursor with
  | nil => rfl
  | cons item rest ih =>
    obtain ⟨index, opening, pass, straight⟩ := straight.next
    simp only [Cursor.visits, List.map_cons, ih straight, index, opening, pass, List.length_cons,
      List.range'_succ, Visit.stage]

theorem run_sentBack? (straight : cursor.repeats.Straight items) (item : Item) :
    (cursor.run items).repeats.sentBack? item = cursor.repeats.sentBack? item := by
  obtain ⟨-, opening, pass⟩ := straight.run
  ext target
  rw [sentBack?_eq_some_iff, sentBack?_eq_some_iff, opening, pass]

/-- A last item may be a mark or send playback back. -/
theorem walk_concat {score : Score} {rest : List Item} (straight : cursor.repeats.Straight items)
    (ahead : score.items.drop cursor.index = items ++ item :: rest) :
    score.Walk cursor (cursor.visits (items ++ [item])) ((cursor.run items).next item) := by
  have here : score.items[(cursor.run items).index]? = some item := by
    rw [straight.run.1, ← List.head?_drop, ← List.drop_drop, ahead, List.drop_left,
      List.head?_cons]
  rw [Cursor.visits_append]
  exact (straight.walk ahead).trans (.step here .stay)

theorem stages_concat (straight : cursor.repeats.Straight items) (item : Item) :
    (cursor.visits (items ++ [item])).map Visit.stage =
      (List.range' cursor.index (items.length + 1)).map
        fun index => (index, cursor.repeats.opening, cursor.repeats.pass) := by
  obtain ⟨index, opening, pass⟩ := straight.run
  rw [Cursor.visits_append, List.map_append, straight.stages, List.range'_concat, List.map_append]
  simp only [Cursor.visits, List.map_cons, List.map_nil, Visit.stage, index, opening, pass,
    Nat.one_mul]

end RepeatState.Straight

end ScorePlayback
