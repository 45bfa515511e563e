import Mathlib.Data.List.TakeWhile
import ScorePlayback.Proofs.Section

/-! How a pass through a repeat begins. Going back leaves the skipping as it is, so the end of the
pass before decides whether the body of a repeat, which lies before its first numbered ending, is
played. -/

namespace ScorePlayback

/-- Whether an item can be in a pass before the item that ends it. -/
def Item.staysIn (pass : Nat) (item : Item) : Bool := !item.isMark && !item.exceeds pass

/-- Whether an item is in the body of a repeat as long as all items before it are. -/
def Item.isBody (item : Item) : Bool := !item.isMark && item.target?.isNone

namespace Score

/-- What a pass goes through before the item that ends it. -/
def passed (score : Score) (opening pass : Nat) : List Item :=
  (score.items.drop (opening + 1)).takeWhile (Item.staysIn pass)

/-- Whether an ending is being skipped when a pass ends: the last one in it was for another pass. -/
def endsSkipping (score : Score) (opening pass : Nat) : Bool :=
  ((score.passed opening pass).filterMap Item.target?).getLast?.any (· < (pass : Int))

def beginsSkipping (score : Score) (opening pass : Nat) : Bool :=
  pass != 1 && score.endsSkipping opening (pass - 1)

/-- The index of the first numbered ending or repeat mark behind an opening, or the length of the
score if there is none. -/
def bodyEnd (score : Score) (opening : Nat) : Nat :=
  opening + 1 + ((score.items.drop (opening + 1)).takeWhile Item.isBody).length

end Score

theorem Item.staysIn_iff {pass : Nat} {item : Item} :
    item.staysIn pass = true ↔ item.isMark = false ∧ item.passes ≤ pass := by
  simp only [staysIn, Bool.and_eq_true, Bool.not_eq_true']
  refine and_congr_right fun plain => ?_
  rw [Bool.eq_false_iff, ne_eq, exceeds_iff plain]
  omega

theorem Item.staysIn_mono {item : Item} {pass later : Nat} (before : pass ≤ later)
    (stays : item.staysIn pass = true) : item.staysIn later = true := by
  rw [staysIn_iff] at stays ⊢
  exact ⟨stays.1, by omega⟩

private theorem takeWhile_isPrefix_of_imp {p q : Item → Bool} (imp : ∀ item, p item → q item)
    (items : List Item) : items.takeWhile p <+: items.takeWhile q := by
  have both : (fun item => decide (p item ∧ q item)) = p := by
    funext item
    exact Bool.eq_iff_iff.mpr (decide_eq_true_iff.trans (and_iff_left_of_imp (imp item)))
  have inner : (items.takeWhile q).takeWhile p = items.takeWhile p := by
    rw [List.takeWhile_takeWhile, both]
  rw [← inner]
  exact List.takeWhile_prefix p

namespace Score
variable {score : Score} {opening pass : Nat}

theorem passed_eq {gone rest : List Item} {item : Item}
    (ahead : score.items.drop (opening + 1) = gone ++ item :: rest)
    (stayed : ∀ other ∈ gone, other.staysIn pass = true) (ended : item.staysIn pass = false) :
    score.passed opening pass = gone := by
  rw [passed, ahead, List.takeWhile_append_of_pos stayed,
    List.takeWhile_cons_of_neg (Bool.eq_false_iff.mp ended), List.append_nil]

theorem beginsSkipping_succ (positive : 1 ≤ pass) :
    score.beginsSkipping opening (pass + 1) = score.endsSkipping opening pass := by
  have later : (pass + 1 != 1) = true := by
    rw [bne_iff_ne]
    omega
  rw [beginsSkipping, later, Bool.true_and, Nat.add_sub_cancel]

/-- Without an ending in a pass there is none in the passes before it. -/
theorem beginsSkipping_of_no_ending
    (none : (score.passed opening pass).filterMap Item.target? = []) :
    score.beginsSkipping opening pass = false := by
  have earlier : score.passed opening (pass - 1) <+: score.passed opening pass :=
    takeWhile_isPrefix_of_imp (fun _ => Item.staysIn_mono (Nat.sub_le pass 1)) _
  have fewer := earlier.filterMap Item.target?
  rw [none, List.prefix_nil] at fewer
  simp [beginsSkipping, endsSkipping, fewer]

end Score

namespace Cursor
variable {score : Score} {opening : Nat} {cursor : Cursor} {item : Item}

/-- Behind an opening, at which no repeat before it is active any more. -/
structure Behind (opening : Nat) (cursor : Cursor) : Prop where
  index : opening < cursor.index
  active : ∀ other, cursor.repeats.opening = some other → opening ≤ other

/-- In a pass through the repeat at an opening, of which `gone` has been visited. -/
structure InPass (score : Score) (opening : Nat) (cursor : Cursor) (gone : List Item) : Prop where
  index : cursor.index = opening + 1 + gone.length
  ahead : gone <+: score.items.drop (opening + 1)
  positive : 1 ≤ cursor.repeats.pass
  stayed : ∀ item ∈ gone, item.staysIn cursor.repeats.pass = true
  skipping : cursor.repeats.skipping =
    (gone.filterMap Item.target?).getLast?.elim (score.beginsSkipping opening cursor.repeats.pass)
      fun target => decide (target < cursor.repeats.pass)

/-- Behind an opening, and in a pass through its repeat as long as this is the active one. -/
structure Within (score : Score) (opening : Nat) (cursor : Cursor) : Prop where
  behind : cursor.Behind opening
  inside : cursor.repeats.opening = some opening → ∃ gone, cursor.InPass score opening gone

theorem Behind.next (behind : cursor.Behind opening) (item : Item) :
    (cursor.next item).Behind opening := by
  have forward := behind.index
  cases back : cursor.repeats.sentBack? item with
  | some target =>
    obtain ⟨index, repeats⟩ := next_of_sentBack back
    have held := (RepeatState.sentBack?_eq_some_iff.mp back).2
    have later := behind.active target held
    refine ⟨by omega, fun other active => behind.active other ?_⟩
    rw [repeats] at active
    exact active
  | none =>
    obtain ⟨index, repeats⟩ := next_of_passed back
    refine ⟨by omega, fun other active => ?_⟩
    rw [repeats] at active
    cases plain : item.isMark with
    | false =>
      rw [RepeatState.past_opening plain] at active
      exact behind.active other active
    | true =>
      rw [(RepeatState.past_of_isMark plain _ _).1] at active
      split at active
      next =>
        cases active
        omega
      next => cases active

theorem behind_of_active (cursor : Cursor) (active : cursor.repeats.opening = some opening) :
    cursor.Behind opening :=
  ⟨cursor.opening_lt opening active, fun _ held =>
    Nat.le_of_eq (Option.some.inj (active.symm.trans held))⟩

namespace InPass
variable {gone : List Item}

theorem ahead_of_getElem? (inside : cursor.InPass score opening gone)
    (here : score.items[cursor.index]? = some item) :
    ∃ rest, score.items.drop (opening + 1) = gone ++ item :: rest := by
  obtain ⟨rest, ahead⟩ := inside.ahead
  rw [inside.index, ← List.getElem?_drop, ← ahead,
    List.getElem?_append_right (Nat.le_refl _), Nat.sub_self] at here
  cases rest with
  | nil => cases here
  | cons first rest =>
    cases here
    exact ⟨rest, ahead.symm⟩

/-- A pass that is sent back ends with the skipping that the next one begins with. -/
theorem next_of_sentBack (inside : cursor.InPass score opening gone)
    (here : score.items[cursor.index]? = some item)
    (back : cursor.repeats.sentBack? item = some opening) :
    (cursor.next item).InPass score opening [] := by
  obtain ⟨rest, ahead⟩ := inside.ahead_of_getElem? here
  obtain ⟨index, repeats⟩ := Cursor.next_of_sentBack back
  have ended : item.staysIn cursor.repeats.pass = false := by
    have more := (RepeatState.sentBack?_eq_some_iff.mp back).1
    rw [Bool.eq_false_iff, ne_eq, Item.staysIn_iff]
    omega
  have passed := Score.passed_eq ahead inside.stayed ended
  refine ⟨index, List.nil_prefix, ?_, by simp, ?_⟩
  · rw [repeats]
    exact Nat.le_add_left _ _
  · rw [repeats]
    change cursor.repeats.skipping = score.beginsSkipping opening (cursor.repeats.pass + 1)
    rw [Score.beginsSkipping_succ inside.positive, Score.endsSkipping, passed, inside.skipping]
    cases last : (gone.filterMap Item.target?).getLast? with
    | some target => rfl
    | none =>
      rw [List.getLast?_eq_none_iff, ← passed] at last
      exact Score.beginsSkipping_of_no_ending last

theorem next_of_passed (inside : cursor.InPass score opening gone)
    (active : cursor.repeats.opening = some opening)
    (here : score.items[cursor.index]? = some item)
    (passed : cursor.repeats.sentBack? item = none) (plain : item.isMark = false) :
    (cursor.next item).InPass score opening (gone ++ [item]) := by
  obtain ⟨rest, ahead⟩ := inside.ahead_of_getElem? here
  obtain ⟨index, repeats⟩ := Cursor.next_of_passed passed
  have pass : (cursor.next item).repeats.pass = cursor.repeats.pass := by
    rw [repeats, RepeatState.past_pass plain]
  have less : item.passes ≤ cursor.repeats.pass := by
    rw [RepeatState.sentBack?_eq_none_iff, active] at passed
    exact passed.resolve_left (Option.some_ne_none _)
  constructor
  · rw [index, inside.index, List.length_append, List.length_singleton]
    omega
  · exact ⟨rest, by rw [ahead, List.append_assoc, List.singleton_append]⟩
  · rw [pass]
    exact inside.positive
  · rw [pass]
    intro other member
    rcases List.mem_append.mp member with earlier | last
    · exact inside.stayed other earlier
    · obtain rfl := List.mem_singleton.mp last
      exact Item.staysIn_iff.mpr ⟨plain, less⟩
  · rw [pass, repeats, List.filterMap_append]
    match item with
    | .bar (.ending numbered) => simp [RepeatState.past, RepeatState.onward, Item.target?]
    | .bar (.line .simple) | .note _ | .chord _ | .key _ | .tempo _ | .absent =>
      rw [List.filterMap_cons_none rfl, List.filterMap_nil, List.append_nil]
      exact inside.skipping

end InPass

theorem Within.next (within : cursor.Within score opening)
    (here : score.items[cursor.index]? = some item) :
    (cursor.next item).Within score opening := by
  refine ⟨within.behind.next item, fun active => ?_⟩
  cases back : cursor.repeats.sentBack? item with
  | some target =>
    have held := (RepeatState.sentBack?_eq_some_iff.mp back).2
    rw [(Cursor.next_of_sentBack back).2] at active
    obtain rfl : target = opening := Option.some.inj (held.symm.trans active)
    obtain ⟨gone, inside⟩ := within.inside active
    exact ⟨[], inside.next_of_sentBack here back⟩
  | none =>
    rw [(Cursor.next_of_passed back).2] at active
    cases plain : item.isMark with
    | false =>
      rw [RepeatState.past_opening plain] at active
      obtain ⟨gone, inside⟩ := within.inside active
      exact ⟨gone ++ [item], inside.next_of_passed active here back plain⟩
    | true =>
      rw [(RepeatState.past_of_isMark plain _ _).1] at active
      split at active
      next => exact absurd (Option.some.inj active) (Nat.ne_of_gt within.behind.index)
      next => cases active

/-- In the body no ending of the pass has been visited yet. -/
theorem InPass.skipping_of_body {gone : List Item} (inside : cursor.InPass score opening gone)
    (body : cursor.index < score.bodyEnd opening) :
    cursor.repeats.skipping = score.beginsSkipping opening cursor.repeats.pass := by
  have front : gone <+: (score.items.drop (opening + 1)).takeWhile Item.isBody := by
    refine List.prefix_of_prefix_length_le inside.ahead (List.takeWhile_prefix _) ?_
    have := inside.index
    unfold Score.bodyEnd at body
    omega
  have none : gone.filterMap Item.target? = [] := by
    refine List.filterMap_eq_nil_iff.mpr fun item member => ?_
    have inBody := List.all_eq_true.mp List.all_takeWhile item (front.subset member)
    simp only [Item.isBody, Bool.and_eq_true, Option.isNone_iff_eq_none] at inBody
    exact inBody.2
  rw [inside.skipping, none]
  rfl

end Cursor

def Visit.opens (visit : Visit) : Bool :=
  visit.item.opens && (visit.repeats.sentBack? visit.item).isNone

namespace Score.Walk
variable {score : Score} {before after : Cursor} {visits : List Visit} {opening : Nat}

theorem behind (walk : score.Walk before visits after) (start : before.Behind opening) :
    ∀ visit ∈ visits, opening < visit.index := by
  induction walk with
  | stay => simp
  | step _ _ ih =>
    intro visit member
    rcases List.mem_cons.mp member with rfl | later
    · exact start.index
    · exact ih (start.next _) visit later

theorem skipping_of_body (walk : score.Walk before visits after)
    (start : before.Within score opening) :
    ∀ visit ∈ visits, visit.repeats.opening = some opening → visit.index < score.bodyEnd opening →
      visit.repeats.skipping = score.beginsSkipping opening visit.repeats.pass := by
  induction walk with
  | stay => simp
  | step here _ ih =>
    intro visit member active body
    rcases List.mem_cons.mp member with rfl | later
    · obtain ⟨gone, inside⟩ := start.inside active
      exact inside.skipping_of_body body
    · exact ih (start.next here) visit later active body

end Score.Walk

namespace Cursor
variable {score : Score} {cursor : Cursor} {item : Item}

private theorem within_of_opens (score : Score) (opens : item.opens = true)
    (passed : cursor.repeats.sentBack? item = none) (played : cursor.repeats.skipping = false) :
    (cursor.next item).Within score cursor.index := by
  obtain ⟨index, repeats⟩ := next_of_passed passed
  have state : (cursor.next item).repeats = ⟨some cursor.index, 1, false⟩ := by
    rw [repeats, ← played]
    match item with
    | .bar (.line .repeatOpen) => rfl
    | .bar (.line .repeatCloseOpen) => rfl
  refine ⟨⟨by omega, fun other active => ?_⟩, fun _ => ⟨[], index, List.nil_prefix, ?_, ?_, ?_⟩⟩
  · rw [state] at active
    exact Nat.le_of_eq (Option.some.inj active)
  · exact Nat.le_of_eq (congrArg RepeatState.pass state).symm
  · simp
  · rw [state]
    rfl

end Cursor

/-- The body of a repeat that is opened while nothing is skipped is played on its first pass, and on
every other pass unless the one before it ends with the skipping of an ending. -/
theorem Score.skipping_body (score : Score) (first : Visit) (visited : first ∈ score.route)
    (opens : first.opens = true) (played : first.repeats.skipping = false) :
    ∀ visit ∈ score.route, visit.repeats.opening = some first.index →
      visit.index < score.bodyEnd first.index →
      visit.repeats.skipping = score.beginsSkipping first.index visit.repeats.pass := by
  obtain ⟨final, walk, -⟩ := Walk.of_routeFrom score .start
  obtain ⟨front, rest, split⟩ := List.append_of_mem visited
  rw [← Score.route, split] at walk
  obtain ⟨cursor, earlier, index, repeats, here, later⟩ := walk.exists_cursor
  obtain ⟨marks, passed⟩ := Bool.and_eq_true_iff.mp opens
  rw [Option.isNone_iff_eq_none, repeats] at passed
  rw [repeats] at played
  have within := Cursor.within_of_opens score marks passed played
  intro visit member active body
  rw [index] at active body ⊢
  rw [split] at member
  rcases List.mem_append.mp member with before | after
  · obtain ⟨_, tail, rfl⟩ := List.append_of_mem before
    obtain ⟨place, -, -, same, there, onward⟩ := earlier.exists_cursor
    rw [same] at active
    have beyond := (onward.trans (.step here later)).behind ((place.behind_of_active active).next _)
      ⟨cursor.index, first.item, cursor.repeats⟩ (by simp)
    exact absurd beyond (Nat.lt_irrefl _)
  · rcases List.mem_cons.mp after with rfl | after
    · rw [repeats] at active
      exact absurd (cursor.opening_lt _ active) (Nat.lt_irrefl _)
    · exact later.skipping_of_body within visit after active body

/-- The second pass ends while the ending of the first one is being skipped. -/
def Score.missingEnding : Score where
  items := [.bar (.line .repeatOpen), .note { id := 0 }, .bar (.ending { target := 1 }),
    .note { id := 1, letter := .d }, .bar (.ending { target := 3 }), .note { id := 2, letter := .e }]

theorem Score.skipping_body_missingEnding :
    ∃ first ∈ missingEnding.route, first.index = 0 ∧ first.opens = true ∧
      first.repeats.skipping = false ∧
      (∀ visit ∈ missingEnding.route, visit.repeats.opening = some 0 →
        visit.index < missingEnding.bodyEnd 0 →
        visit.repeats.skipping = missingEnding.beginsSkipping 0 visit.repeats.pass) ∧
      [1, 2, 3].map (missingEnding.beginsSkipping 0) = [false, false, true] := by
  have visited : ⟨0, .bar (.line .repeatOpen), {}⟩ ∈ missingEnding.route := by
    rw [route, routeFrom_of_some rfl]
    exact List.mem_cons_self
  exact ⟨_, visited, rfl, rfl, rfl, missingEnding.skipping_body _ visited rfl rfl, by decide⟩

/-- The body of a repeat is not played on every pass through it. -/
theorem Score.body_skipped :
    (∀ item ∈ missingEnding.items, ∀ target ∈ item.target?, 1 ≤ target) ∧
      (∃ first ∈ missingEnding.route, first.index = 0 ∧ first.opens = true ∧
        first.repeats.skipping = false) ∧
      ∃ visit ∈ missingEnding.route, visit.repeats.opening = some 0 ∧ visit.repeats.pass = 3 ∧
        visit.index = 1 ∧ 1 < missingEnding.bodyEnd 0 ∧ visit.repeats.skipping = true := by
  decide +kernel

end ScorePlayback
