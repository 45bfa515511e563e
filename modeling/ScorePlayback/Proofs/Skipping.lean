import ScorePlayback.Proofs.PassStart

/-! How long an ending is skipped. Only numbered endings switch the skipping on and off, and the
closing mark of a repeat is none: behind it the skipping stays as the last ending has left it. -/

namespace ScorePlayback

/-- What an ending that playback goes on past switches the skipping to. -/
def Visit.switches? (visit : Visit) : Option Bool :=
  if (visit.repeats.sentBack? visit.item).isSome then none
  else visit.item.target?.map fun target => decide (target < (visit.repeats.pass : Int))

/-- The skipping that is left by the last ending among some visits. -/
def Visit.leftSkipping (visits : List Visit) : Bool :=
  (visits.filterMap switches?).getLast?.getD false

theorem Visit.leftSkipping_append {visits later : List Visit}
    (others : ∀ visit ∈ later, visit.item.target? = none) :
    leftSkipping (visits ++ later) = leftSkipping visits := by
  have none : later.filterMap switches? = [] := by
    refine List.filterMap_eq_nil_iff.mpr fun visit member => ?_
    rw [switches?, others visit member, Option.map_none, ite_self]
  rw [leftSkipping, leftSkipping, List.filterMap_append, none, List.append_nil]

theorem Cursor.skipping_next (cursor : Cursor) (item : Item) :
    (cursor.next item).repeats.skipping =
      (Visit.switches? ⟨cursor.index, item, cursor.repeats⟩).getD cursor.repeats.skipping := by
  cases back : cursor.repeats.sentBack? item with
  | some target =>
    rw [(next_of_sentBack back).2, Visit.switches?, back]
    rfl
  | none =>
    rw [(next_of_passed back).2, Visit.switches?, back]
    match item with
    | .bar (.ending _) => rfl
    | .bar (.line .simple) | .bar (.line .repeatOpen) | .bar (.line .repeatClose) => rfl
    | .bar (.line .repeatCloseOpen) => rfl
    | .note _ | .chord _ | .key _ | .tempo _ | .absent => rfl

namespace Score.Walk
variable {score : Score} {before after : Cursor} {visits : List Visit}

theorem skipping (walk : score.Walk before visits after) :
    after.repeats.skipping =
      (visits.filterMap Visit.switches?).getLast?.getD before.repeats.skipping := by
  induction walk with
  | stay => rfl
  | @step cursor final item visits here rest ih =>
    rw [ih, Cursor.skipping_next]
    cases switched : Visit.switches? ⟨cursor.index, item, cursor.repeats⟩ with
    | none => rw [List.filterMap_cons_none switched, Option.getD_none]
    | some skipping =>
      rw [List.filterMap_cons_some switched, List.getLast?_cons, Option.getD_some,
        Option.getD_some]

end Score.Walk

/-- Every visit of the route is made by a cursor that the visits before it have led to. -/
theorem Score.exists_cursor_of_route {score : Score} {before after : List Visit} {visit : Visit}
    (split : score.route = before ++ visit :: after) :
    ∃ cursor, score.Walk .start before cursor ∧ visit.repeats = cursor.repeats ∧
      score.items[cursor.index]? = some visit.item := by
  obtain ⟨final, walk, -⟩ := Walk.of_routeFrom score .start
  rw [← Score.route, split] at walk
  obtain ⟨cursor, start, -, repeats, here, -⟩ := walk.exists_cursor
  exact ⟨cursor, start, repeats, here⟩

/-- Whatever is visited, it is skipped or played as the last ending before it has left it. -/
theorem Score.skipping_of_route {score : Score} {before after : List Visit} {visit : Visit}
    (split : score.route = before ++ visit :: after) :
    visit.repeats.skipping = Visit.leftSkipping before := by
  obtain ⟨cursor, start, repeats, -⟩ := exists_cursor_of_route split
  rw [repeats]
  exact start.skipping

/-- In the section behind an opening, of which `gone` is behind the cursor. -/
structure Cursor.InSection (score : Score) (opening : Nat) (cursor : Cursor)
    (gone : List Item) : Prop where
  index : cursor.index = opening + 1 + gone.length
  ahead : gone <+: score.upToMark (opening + 1)
  bounded : cursor.repeats.pass ≤ score.passCount opening
  passed : ∀ item ∈ gone, item.exceeds cursor.repeats.pass = false
  skipping : ∀ target, (gone.filterMap Item.target?).getLast? = some target →
    cursor.repeats.skipping = decide (target < cursor.repeats.pass)

namespace Cursor.InSection
variable {score : Score} {opening : Nat} {cursor : Cursor} {gone : List Item} {item : Item}

/-- The next item either belongs to the section too or is the mark behind it. -/
theorem next_item (inside : cursor.InSection score opening gone)
    (here : score.items[cursor.index]? = some item) :
    (item.isMark = false ∧ gone ++ [item] <+: score.upToMark (opening + 1)) ∨
      (item.isMark = true ∧ gone = score.upToMark (opening + 1) ∧
        cursor.index = score.nextMark (opening + 1)) := by
  obtain ⟨rest, section_eq⟩ := inside.ahead
  cases rest with
  | nil =>
    rw [List.append_nil] at section_eq
    have index : cursor.index = score.nextMark (opening + 1) := by
      rw [inside.index, Score.nextMark, section_eq]
    rw [index] at here
    exact .inr ⟨Score.isMark_of_nextMark here, section_eq, index⟩
  | cons first more =>
    have ahead := score.drop_eq_upToMark_append (opening + 1)
    rw [← section_eq, List.append_assoc, List.cons_append] at ahead
    rw [inside.index, ← List.getElem?_drop, ahead, List.getElem?_append_right (Nat.le_refl _),
      Nat.sub_self] at here
    obtain rfl : first = item := Option.some.inj here
    refine .inl ⟨score.upToMark_plain (opening + 1) ?_, more, ?_⟩
    · simp [← section_eq]
    · rw [List.append_assoc, List.singleton_append, section_eq]

theorem next_of_sentBack (inside : cursor.InSection score opening gone)
    (here : score.items[cursor.index]? = some item)
    (back : cursor.repeats.sentBack? item = some opening) :
    (cursor.next item).InSection score opening [] := by
  obtain ⟨index, repeats⟩ := Cursor.next_of_sentBack back
  have more := (RepeatState.sentBack?_eq_some_iff.mp back).1
  -- An ending or the closing mark: whichever it is, it is counted among the passes.
  have again : cursor.repeats.pass < score.passCount opening := by
    rw [Score.lt_passCount_iff]
    rcases inside.next_item here with ⟨plain, ahead⟩ | ⟨mark, -, last⟩
    · exact .inr ⟨item, ahead.subset (by simp), (Item.exceeds_iff plain).mpr more⟩
    · rw [Item.passes_of_isMark mark] at more
      split at more
      next closes =>
        rw [last] at here
        have closed : score.closesAt (score.nextMark (opening + 1)) = true := by
          simp [Score.closesAt, here, closes]
        rw [if_pos closed]
        omega
      next => omega
  refine ⟨index, List.nil_prefix, ?_, by simp, by simp⟩
  rw [repeats]
  exact again

theorem next_of_passed (inside : cursor.InSection score opening gone)
    (active : cursor.repeats.opening = some opening)
    (here : score.items[cursor.index]? = some item)
    (passed : cursor.repeats.sentBack? item = none) (plain : item.isMark = false) :
    (cursor.next item).InSection score opening (gone ++ [item]) := by
  obtain ⟨index, repeats⟩ := Cursor.next_of_passed passed
  have pass : (cursor.next item).repeats.pass = cursor.repeats.pass := by
    rw [repeats, RepeatState.past_pass plain]
  have ahead : gone ++ [item] <+: score.upToMark (opening + 1) := by
    rcases inside.next_item here with ⟨-, ahead⟩ | ⟨mark, -⟩
    · exact ahead
    · rw [plain] at mark
      cases mark
  have less : item.passes ≤ cursor.repeats.pass := by
    rw [RepeatState.sentBack?_eq_none_iff, active] at passed
    exact passed.resolve_left (Option.some_ne_none _)
  constructor
  · rw [index, inside.index, List.length_append, List.length_singleton]
    omega
  · exact ahead
  · rw [pass]
    exact inside.bounded
  · rw [pass]
    intro other member
    rcases List.mem_append.mp member with earlier | last
    · exact inside.passed other earlier
    · obtain rfl := List.mem_singleton.mp last
      rw [Bool.eq_false_iff, ne_eq, Item.exceeds_iff plain]
      omega
  · intro target last
    rw [pass, skipping_next, Visit.switches?, passed]
    rw [List.filterMap_append] at last
    cases own : item.target? with
    | some number =>
      rw [List.filterMap_cons_some own, List.filterMap_nil, List.getLast?_concat] at last
      obtain rfl : number = target := Option.some.inj last
      simp
    | none =>
      rw [List.filterMap_cons_none own, List.filterMap_nil, List.append_nil] at last
      simpa using inside.skipping target last

end Cursor.InSection

/-- As long as a repeat is active the cursor is in the section behind its opening. -/
def Cursor.Sectioned (score : Score) (cursor : Cursor) : Prop :=
  ∀ opening, cursor.repeats.opening = some opening → ∃ gone, cursor.InSection score opening gone

theorem Cursor.Sectioned.next {score : Score} {cursor : Cursor} {item : Item}
    (sectioned : cursor.Sectioned score) (here : score.items[cursor.index]? = some item) :
    (cursor.next item).Sectioned score := by
  intro opening active
  cases back : cursor.repeats.sentBack? item with
  | some target =>
    have held := (RepeatState.sentBack?_eq_some_iff.mp back).2
    rw [(next_of_sentBack back).2] at active
    obtain rfl : target = opening := Option.some.inj (held.symm.trans active)
    obtain ⟨gone, inside⟩ := sectioned target held
    exact ⟨[], inside.next_of_sentBack here back⟩
  | none =>
    obtain ⟨index, repeats⟩ := next_of_passed back
    cases plain : item.isMark with
    | false =>
      rw [repeats, RepeatState.past_opening plain] at active
      obtain ⟨gone, inside⟩ := sectioned opening active
      exact ⟨gone ++ [item], inside.next_of_passed active here back plain⟩
    | true =>
      obtain ⟨opened, pass⟩ := RepeatState.past_of_isMark plain cursor.repeats cursor.index
      rw [repeats, opened] at active
      split at active
      next =>
        obtain rfl : cursor.index = opening := Option.some.inj active
        refine ⟨[], index, List.nil_prefix, ?_, by simp, by simp⟩
        rw [repeats, pass]
        exact score.one_le_passCount cursor.index
      next => cases active

theorem Score.Walk.sectioned {score : Score} {before after : Cursor} {visits : List Visit}
    (walk : score.Walk before visits after) (start : before.Sectioned score) :
    after.Sectioned score := by
  induction walk with
  | stay => exact start
  | step here _ ih => exact ih (start.next here)

/-- A repeat ends in the last of its passes, with the skipping that its last ending asks for. -/
private theorem Cursor.InSection.skipping_of_closed {score : Score} {opening : Nat}
    {cursor : Cursor}
    {gone : List Item} (inside : cursor.InSection score opening gone)
    (active : cursor.repeats.opening = some opening)
    (here : score.items[cursor.index]? = some (.bar (.line .repeatClose)))
    (passed : cursor.repeats.sentBack? (.bar (.line .repeatClose)) = none) {target : Int}
    (last : ((score.upToMark (opening + 1)).filterMap Item.target?).getLast? = some target) :
    cursor.repeats.skipping = decide (target < score.passCount opening) := by
  obtain rfl : gone = score.upToMark (opening + 1) := by
    rcases inside.next_item here with ⟨plain, -⟩ | ⟨-, whole, -⟩
    · cases plain
    · exact whole
  have twice : 2 ≤ cursor.repeats.pass := by
    rw [RepeatState.sentBack?_eq_none_iff, active] at passed
    have := passed.resolve_left (Option.some_ne_none _)
    simp only [Item.passes, Bar.passes] at this
    omega
  have ended : ¬ cursor.repeats.pass < score.passCount opening := by
    rw [Score.lt_passCount_iff]
    rintro (few | ⟨item, member, exceeds⟩)
    · split at few <;> omega
    · rw [inside.passed item member] at exceeds
      cases exceeds
  have final : cursor.repeats.pass = score.passCount opening :=
    Nat.le_antisymm inside.bounded (Nat.le_of_not_lt ended)
  rw [inside.skipping target last, final]

/-- Behind a mark that closes a repeat for good everything up to the next numbered ending is skipped
or played as the last ending before the mark has left it. If that is in the repeat itself, it has
been skipped unless it is for the last pass. -/
theorem Score.skipping_after_close (score : Score) {before after : List Visit} {close : Visit}
    (split : score.route = before ++ close :: after)
    (closes : close.item = .bar (.line .repeatClose))
    (passed : close.repeats.sentBack? close.item = none) :
    (∀ visit ∈ after.takeWhile (·.item.target?.isNone),
      visit.repeats.skipping = Visit.leftSkipping before) ∧
    ∀ opening target, close.repeats.opening = some opening →
      ((score.upToMark (opening + 1)).filterMap Item.target?).getLast? = some target →
      Visit.leftSkipping before = decide (target < score.passCount opening) := by
  refine ⟨fun visit near => ?_, fun opening target active last => ?_⟩
  · obtain ⟨front, rest, found⟩ := List.append_of_mem near
    have onward := List.takeWhile_append_dropWhile (p := (·.item.target?.isNone)) (l := after)
    have others : ∀ other ∈ close :: front, other.item.target? = none := by
      intro other member
      rcases List.mem_cons.mp member with rfl | passing
      · rw [closes]
        rfl
      · have inside : other ∈ after.takeWhile (·.item.target?.isNone) := by simp [found, passing]
        exact Option.isNone_iff_eq_none.mp (List.all_eq_true.mp List.all_takeWhile other inside)
    rw [found, List.append_assoc, List.cons_append] at onward
    rw [← onward, ← List.cons_append, ← List.append_assoc] at split
    rw [skipping_of_route split, Visit.leftSkipping_append others]
  · obtain ⟨cursor, start, repeats, here⟩ := exists_cursor_of_route split
    rw [← skipping_of_route split]
    rw [repeats] at active passed ⊢
    rw [closes] at here passed
    obtain ⟨gone, inside⟩ := start.sectioned (by intro _ none; cases none) opening active
    exact inside.skipping_of_closed active here passed last

/-- A repeat of which only the first pass has an ending. -/
def Score.singleEnding : Score where
  items := [.bar (.line .repeatOpen), .note { id := 0 }, .bar (.ending { target := 1 }),
    .note { id := 1, letter := .d }, .bar (.line .repeatClose), .note { id := 2, letter := .e }]

theorem Score.route_singleEnding :
    singleEnding.route =
      [⟨0, .bar (.line .repeatOpen), {}⟩,
        ⟨1, .note { id := 0 }, ⟨some 0, 1, false⟩⟩,
        ⟨2, .bar (.ending { target := 1 }), ⟨some 0, 1, false⟩⟩,
        ⟨3, .note { id := 1, letter := .d }, ⟨some 0, 1, false⟩⟩,
        ⟨4, .bar (.line .repeatClose), ⟨some 0, 1, false⟩⟩,
        ⟨1, .note { id := 0 }, ⟨some 0, 2, false⟩⟩,
        ⟨2, .bar (.ending { target := 1 }), ⟨some 0, 2, false⟩⟩,
        ⟨3, .note { id := 1, letter := .d }, ⟨some 0, 2, true⟩⟩]
      ++ ⟨4, .bar (.line .repeatClose), ⟨some 0, 2, true⟩⟩
        :: [⟨5, .note { id := 2, letter := .e }, ⟨none, 1, true⟩⟩] := by
  rw [route]
  iterate 10 rw [routeFrom_of_some rfl]
  rw [routeFrom_of_none rfl]
  rfl

theorem Score.skipping_after_close_singleEnding :
    ∃ before close after, singleEnding.route = before ++ close :: after ∧
      close.item = .bar (.line .repeatClose) ∧ close.repeats.sentBack? close.item = none ∧
      (∀ visit ∈ after.takeWhile (·.item.target?.isNone),
        visit.repeats.skipping = Visit.leftSkipping before) ∧
      close.repeats.opening = some 0 ∧
      ((singleEnding.upToMark 1).filterMap Item.target?).getLast? = some 1 ∧
      Visit.leftSkipping before = decide (1 < (singleEnding.passCount 0 : Int)) ∧
      Visit.leftSkipping before = true := by
  have split := route_singleEnding
  obtain ⟨near, section_eq⟩ := singleEnding.skipping_after_close split rfl rfl
  exact ⟨_, _, _, split, rfl, rfl, near, rfl, rfl, section_eq 0 1 rfl rfl, rfl⟩

/-- Behind the repeat nothing is played any more. -/
theorem Score.rest_skipped :
    (∀ item ∈ singleEnding.items, ∀ target ∈ item.target?, 1 ≤ target) ∧
      ∃ before close after, singleEnding.route = before ++ close :: after ∧
        close.item = .bar (.line .repeatClose) ∧ close.repeats.sentBack? close.item = none ∧
        ∃ visit ∈ after.takeWhile (·.item.target?.isNone),
          visit.item = .note { id := 2, letter := .e } ∧ visit.repeats.skipping = true := by
  refine ⟨by decide, _, _, _, route_singleEnding, rfl, rfl, ?_⟩
  exact ⟨⟨5, .note { id := 2, letter := .e }, ⟨none, 1, true⟩⟩, List.mem_singleton_self _, rfl, rfl⟩

end ScorePlayback
