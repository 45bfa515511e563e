import ScorePlayback.Proofs.Measures
import ScorePlayback.Proofs.PassStructure
import ScorePlayback.Proofs.Retiming

/-! A repeated section is heard twice. Both of its marks restore the declared key, so its second
pass differs from the first in nothing but that it is later, by as long as the section lasts. -/

namespace ScorePlayback

/-- A repeat in a score, of a section without repeat marks, numbered endings and keys. -/
structure Reprise where
  front : List Item
  body : List Item
  rest : List Item
  plain : ∀ item ∈ body, item.isPlain = true
  keyless : ∀ key, .key key ∉ body

namespace Reprise

def score (reprise : Reprise) : Score where
  items := reprise.front ++ .bar (.line .repeatOpen) :: reprise.body ++
    .bar (.line .repeatClose) :: reprise.rest

/-- The index of the opening mark. -/
def opening (reprise : Reprise) : Nat := reprise.front.length

/-- The index of the closing mark. -/
def closing (reprise : Reprise) : Nat := reprise.opening + 1 + reprise.body.length

/-- How long the section lasts. -/
def length (reprise : Reprise) (resolution : Int) : Int :=
  reprise.score.elapsed resolution (reprise.body.flatMap Item.parts)

/-- The visits up to the opening mark, those of two passes to the closing mark, and all others. -/
structure GoesTwice (reprise : Reprise) (before first second after : List Visit) : Prop where
  route : reprise.score.route = before ++ first ++ second ++ after
  opened : before.getLast?.map Visit.index = some reprise.opening
  firstPass : first.map Visit.stage = (List.range' (reprise.opening + 1)
    (reprise.body.length + 1)).map fun index => (index, some reprise.opening, 1)
  secondPass : second.map Visit.stage = (List.range' (reprise.opening + 1)
    (reprise.body.length + 1)).map fun index => (index, some reprise.opening, 2)
  earlier : ∀ visit ∈ before, visit.index ≤ reprise.opening
  later : ∀ visit ∈ after, reprise.closing < visit.index

end Reprise

namespace Playhead
variable (score : Score) (resolution : Int)

/-- The playhead when visits have been made. -/
def afterVisits (head : Playhead) (visits : List Visit) : Playhead :=
  visits.foldl (fun head visit => (head.visit score resolution visit).1) head

theorem cues_append (head : Playhead) (first second : List Visit) :
    head.cues score resolution (first ++ second) = head.cues score resolution first ++
      (head.afterVisits score resolution first).cues score resolution second := by
  induction first generalizing head with
  | nil => rfl
  | cons visit rest ih =>
    have later := ih (head.visit score resolution visit).1
    simp only [List.cons_append, cues, later, List.append_assoc]
    rfl

theorem afterVisits_append (head : Playhead) (first second : List Visit) :
    head.afterVisits score resolution (first ++ second) =
      (head.afterVisits score resolution first).afterVisits score resolution second :=
  List.foldl_append

/-- The items that are performed decide where visits lead to. -/
theorem afterVisits_eq_after (head : Playhead) (visits : List Visit) :
    head.afterVisits score resolution visits =
      head.after score resolution (visits.filterMap Visit.performed) := by
  induction visits generalizing head with
  | nil => rfl
  | cons visit rest ih =>
    obtain ⟨index, item, repeats⟩ := visit
    rw [afterVisits, List.foldl_cons, ← afterVisits, ih]
    cases item with
    | bar => rfl
    | note | chord | key | tempo | absent =>
      cases skipped : repeats.skipping with
      | true => simp [Visit.performed, Playhead.visit, skipped]
      | false => simp [Visit.performed, Playhead.visit, skipped, after, performItem]

private theorem declared_playEach (head : Playhead) (notes : List Note) :
    (head.playEach score resolution notes).1.declared = head.declared := by
  induction notes generalizing head with
  | nil => rfl
  | cons note rest ih =>
    have single : (head.playSingle score resolution note).1.declared = head.declared := by
      unfold playSingle
      split <;> rfl
    simp only [playEach, ih, single]

private theorem declared_performItem (head : Playhead) {item : Item}
    (keyless : ∀ key, item ≠ .key key) :
    (head.performItem score resolution item).1.declared = head.declared := by
  cases item with
  | note single =>
    simp only [performItem, playItem, playNote]
    split
    next => rfl
    next => exact declared_playEach score resolution head _
  | key declared => exact absurd rfl (keyless declared)
  | chord | bar | tempo | absent => rfl

private theorem declared_after (head : Playhead) {items : List Item}
    (keyless : ∀ key, .key key ∉ items) :
    (head.after score resolution items).declared = head.declared := by
  induction items generalizing head with
  | nil => rfl
  | cons item rest ih =>
    have other (key : KeySignature) (same : item = .key key) : False :=
      keyless key (same ▸ List.mem_cons_self)
    have first := declared_performItem score resolution head other
    have later := ih (head.performItem score resolution item).1
      fun key member => keyless key (List.mem_cons_of_mem _ member)
    exact later.trans first

/-- Items without keys between two bar lines change nothing but the clock. -/
theorem after_measures (head : Playhead) {items : List Item} (keyless : ∀ key, .key key ∉ items)
    (restored : head.running = head.declared) :
    head.after score resolution (items ++ [.barLine]) =
      head.retimed (· + score.elapsed resolution (items.flatMap Item.parts)) := by
  have split : head.after score resolution (items ++ [.barLine]) =
      let last := head.after score resolution items
      { last with running := last.declared } := List.foldl_append
  rw [split, retimed, restored, ← declared_after score resolution head keyless,
    ← clock_after score resolution head items]

end Playhead

theorem Cursor.run_of_isPlain (cursor : Cursor) {items : List Item}
    (plain : ∀ item ∈ items, item.isPlain = true) :
    (cursor.run items).index = cursor.index + items.length ∧
      (cursor.run items).repeats = cursor.repeats := by
  induction items generalizing cursor with
  | nil => exact ⟨rfl, rfl⟩
  | cons item rest ih =>
    have first := plain item List.mem_cons_self
    obtain ⟨index, repeats⟩ :=
      next_of_passed (RepeatState.sentBack?_of_isPlain first cursor.repeats)
    rw [RepeatState.past_of_isPlain first] at repeats
    obtain ⟨place, state⟩ := ih (cursor.next item) fun other member =>
      plain other (List.mem_cons_of_mem _ member)
    refine ⟨?_, state.trans repeats⟩
    rw [run, List.foldl_cons, ← run, place, index, List.length_cons]
    omega

/-- Nothing behind an opening is visited before the opening is. -/
theorem Score.index_le_of_opensAt {score : Score} {before after : List Visit} {visit : Visit}
    (split : score.route = before ++ visit :: after) (opens : score.opensAt visit.index = true) :
    ∀ other ∈ before, other.index ≤ visit.index := by
  obtain ⟨front, during, rest, unfolds⟩ :=
    (Cursor.start_fresh score).unfolds visit.index (Nat.zero_le _) opens
  have beyond : ∀ other ∈ during ++ rest, visit.index < other.index := by
    intro other member
    rcases List.mem_append.mp member with inside | later
    · have stage := List.mem_map_of_mem (f := Visit.stage) inside
      rw [unfolds.passes] at stage
      obtain ⟨pass, -, staged⟩ := List.mem_flatMap.mp stage
      exact (mem_stages staged).1
    · have further := unfolds.later other later
      unfold nextMark at further
      omega
  have both : before ++ visit :: after = front ++ (during ++ rest) := by
    rw [← split, route, unfolds.route, List.append_assoc]
  rcases List.append_eq_append_iff.mp both with ⟨gap, rfl, -⟩ | ⟨gap, rfl, tail⟩
  · exact fun other member => unfolds.earlier other (List.mem_append_left gap member)
  · have member : visit ∈ during ++ rest := by simp [tail]
    exact absurd (beyond visit member) (Nat.lt_irrefl _)

namespace Reprise
variable {reprise : Reprise} {cursor : Cursor}

theorem items_eq (reprise : Reprise) :
    reprise.score.items = reprise.front ++ .bar (.line .repeatOpen) ::
      (reprise.body ++ .bar (.line .repeatClose) :: reprise.rest) := List.append_assoc ..

private theorem drop_opening (reprise : Reprise) :
    reprise.score.items.drop (reprise.opening + 1) =
      reprise.body ++ .bar (.line .repeatClose) :: reprise.rest := by
  rw [items_eq, ← List.drop_drop, opening, List.drop_left]
  rfl

theorem getElem?_opening (reprise : Reprise) :
    reprise.score.items[reprise.opening]? = some (.bar (.line .repeatOpen)) := by
  rw [items_eq, opening, List.getElem?_append_right (Nat.le_refl _), Nat.sub_self]
  rfl

/-- A pass through the section up to the closing mark, all of it played. -/
structure Passes (reprise : Reprise) (cursor : Cursor) (visits : List Visit) (final : Cursor) :
    Prop where
  walk : reprise.score.Walk cursor visits final
  stages : visits.map Visit.stage = (List.range' (reprise.opening + 1)
    (reprise.body.length + 1)).map
      fun index => (index, cursor.repeats.opening, cursor.repeats.pass)
  performed : visits.filterMap Visit.performed = reprise.body ++ [.barLine]
  final : ∃ close : Cursor, close.index = reprise.closing ∧ close.repeats = cursor.repeats ∧
    final = close.next (.bar (.line .repeatClose))

theorem exists_passes (start : cursor.index = reprise.opening + 1)
    (played : cursor.repeats.skipping = false) :
    ∃ visits final, reprise.Passes cursor visits final := by
  have straight := RepeatState.straight_of_isPlain reprise.plain cursor.repeats
  have ahead : reprise.score.items.drop cursor.index =
      reprise.body ++ .bar (.line .repeatClose) :: reprise.rest := by
    rw [start, drop_opening]
  obtain ⟨index, repeats⟩ := cursor.run_of_isPlain reprise.plain
  refine ⟨_, _, straight.walk_concat ahead, ?_, ?_, _, ?_, repeats, rfl⟩
  · rw [straight.stages_concat, start]
  · rw [Cursor.visits_append, List.filterMap_append,
      Cursor.performed_visits reprise.plain played]
    rfl
  · rw [index, start, closing]

/-- The first pass ends at a mark that sends playback back behind the opening. -/
theorem Passes.goes_back {visits : List Visit} {final : Cursor}
    (passes : reprise.Passes cursor visits final)
    (state : cursor.repeats = ⟨some reprise.opening, 1, false⟩) :
    final.index = reprise.opening + 1 ∧ final.repeats = ⟨some reprise.opening, 2, false⟩ := by
  obtain ⟨close, -, repeats, rfl⟩ := passes.final
  rw [state] at repeats
  have back : close.repeats.sentBack? (.bar (.line .repeatClose)) = some reprise.opening := by
    rw [repeats]
    rfl
  obtain ⟨index, after⟩ := Cursor.next_of_sentBack back
  rw [repeats] at after
  exact ⟨index, after⟩

private theorem Passes.goes_on {visits : List Visit} {final : Cursor}
    (passes : reprise.Passes cursor visits final)
    (state : cursor.repeats = ⟨some reprise.opening, 2, false⟩) :
    final.index = reprise.closing + 1 ∧ final.repeats = {} := by
  obtain ⟨close, place, repeats, rfl⟩ := passes.final
  rw [state] at repeats
  have passed : close.repeats.sentBack? (.bar (.line .repeatClose)) = none := by
    rw [repeats]
    rfl
  obtain ⟨index, after⟩ := Cursor.next_of_passed passed
  rw [repeats] at after
  exact ⟨by rw [index, place], after⟩

theorem length_eq (reprise : Reprise) :
    reprise.score.items.length = reprise.closing + 1 + reprise.rest.length := by
  simp only [items_eq, closing, opening, List.length_append, List.length_cons]
  omega

/-- The visits up to the opening mark, and where they lead to. -/
structure Enters (reprise : Reprise) (before : List Visit) (cursor : Cursor) : Prop where
  walk : reprise.score.Walk .start before cursor
  opened : ∃ earlier index repeats,
    before = earlier ++ [⟨index, .bar (.line .repeatOpen), repeats⟩] ∧ index = reprise.opening
  earlier : ∀ visit ∈ before, visit.index ≤ reprise.opening
  index : cursor.index = reprise.opening + 1
  repeats : cursor.repeats = ⟨some reprise.opening, 1, false⟩

/-- A repeat is opened with nothing left to skip if nothing is skipped before it. -/
theorem exists_enters {visit : Visit} (visited : visit ∈ reprise.score.route)
    (place : visit.index = reprise.opening) (played : visit.repeats.skipping = false) :
    ∃ before cursor, reprise.Enters before cursor := by
  obtain ⟨last, walk, -⟩ := Score.Walk.of_routeFrom reprise.score .start
  obtain ⟨earlier, rest, split⟩ := List.append_of_mem visited
  have opens : reprise.score.opensAt visit.index = true := by
    rw [place, Score.opensAt_of_getElem? reprise.getElem?_opening]
    rfl
  have bounded := Score.index_le_of_opensAt split opens
  rw [← Score.route, split] at walk
  obtain ⟨cursor, start, index, repeats, here, -⟩ := walk.exists_cursor
  obtain ⟨_, item, _⟩ := visit
  subst index repeats
  dsimp only at place played here bounded
  obtain rfl : item = .bar (.line .repeatOpen) := by
    rw [place, getElem?_opening] at here
    exact (Option.some.inj here).symm
  have passed : cursor.repeats.sentBack? (.bar (.line .repeatOpen)) = none :=
    RepeatState.sentBack?_eq_none_iff.mpr (.inr (Int.natCast_nonneg _))
  obtain ⟨index, repeats⟩ := Cursor.next_of_passed passed
  refine ⟨_, _, start.trans (.step here .stay), ⟨earlier, _, _, rfl, place⟩, ?_, ?_, ?_⟩
  · rw [List.forall_mem_append, List.forall_mem_singleton, ← place]
    exact ⟨bounded, Nat.le_refl _⟩
  · rw [index, place]
  · rw [repeats, ← place, ← played]
    rfl

/-- Once it is opened the repeat is gone through in two passes, and both of them play the whole
section. -/
theorem exists_goesTwice {before : List Visit} (enters : reprise.Enters before cursor) :
    ∃ first second after, reprise.GoesTwice before first second after ∧
      first.filterMap Visit.performed = reprise.body ++ [.barLine] ∧
      second.filterMap Visit.performed = reprise.body ++ [.barLine] := by
  have state := enters.repeats
  obtain ⟨first, middle, once⟩ := exists_passes enters.index (by rw [state])
  obtain ⟨again, restate⟩ := once.goes_back state
  obtain ⟨second, final, twice⟩ := exists_passes again (by rw [restate])
  obtain ⟨beyond, ended⟩ := twice.goes_on restate
  have fresh : final.Fresh reprise.score := by
    refine ⟨?_, by rw [ended], by simp [ended]⟩
    rw [beyond, length_eq]
    omega
  have whole := (enters.walk.trans once.walk).trans twice.walk
  refine ⟨first, second, reprise.score.routeFrom final,
    ⟨whole.routeFrom_eq, ?_, ?_, ?_, enters.earlier, ?_⟩, once.performed, twice.performed⟩
  · obtain ⟨earlier, _, _, rfl, place⟩ := enters.opened
    simp [place]
  · rw [once.stages, state]
  · rw [twice.stages, restate]
  · intro visit member
    have := fresh.index_le visit member
    omega

end Reprise

namespace Converter

/-- What some visits sound like after those before them. -/
def stretch (converter : Converter) (score : Score) (before visits : List Visit) : Rendering :=
  converter.sounds.render ((({} : Playhead).afterVisits score converter.resolution before).cues
    score converter.resolution visits)

private theorem stretch_append (converter : Converter) (score : Score)
    (before first second : List Visit) :
    converter.stretch score before (first ++ second) =
      converter.stretch score before first ++ converter.stretch score (before ++ first) second := by
  rw [stretch, Playhead.cues_append, SoundEncoding.render_append, ← Playhead.afterVisits_append]
  rfl

theorem stretch_soundsLike (converter : Converter) (score : Score) (before visits : List Visit) :
    (converter.stretch score before visits).SoundsLike (converter.sounds.render
      ((({} : Playhead).afterVisits score converter.resolution before).perform score
        converter.resolution (visits.filterMap Visit.performed))) := by
  rw [← Playhead.heard_cues]
  exact converter.sounds.render_heard _

/-- A track is a program change and what its whole route sounds like. -/
private theorem events_of_route {converter : Converter} {score : Score} {track : Track}
    (converted : (converter.convert score).result = .ok track) :
    (converter.stretch score [] score.route).fault = none ∧ ∃ channel program,
      track.events =
        programEvent channel program :: (converter.stretch score [] score.route).events := by
  obtain ⟨instrument, records, -, sound, rfl⟩ := convert_eq_ok converted
  rw [rendering_eq] at sound ⊢
  obtain ⟨start, rest, events⟩ := Rendering.append_eq_none sound
  obtain ⟨channel, program, begun⟩ := events_renderProgram start
  exact ⟨rest, channel, program, by rw [events, begun]; rfl⟩

theorem stretch_eq_none {converter : Converter} {score : Score} {before first second : List Visit}
    (sound : (converter.stretch score before (first ++ second)).fault = none) :
    (converter.stretch score before first).fault = none ∧
      (converter.stretch score before (first ++ second)).events =
        (converter.stretch score before first).events ++
          (converter.stretch score (before ++ first) second).events := by
  rw [stretch_append] at sound ⊢
  obtain ⟨start, -, events⟩ := Rendering.append_eq_none sound
  exact ⟨start, events⟩

/-- The tick to which some visits have led. -/
def clock (converter : Converter) (score : Score) (before : List Visit) : Int :=
  (({} : Playhead).afterVisits score converter.resolution before).clock

/-- The second pass sounds like the first, later by as long as the section lasts. -/
structure Doubles (converter : Converter) (reprise : Reprise) (before first second : List Visit) :
    Prop where
  clock : converter.clock reprise.score (before ++ first) =
    converter.clock reprise.score before + reprise.length converter.resolution
  sounds : (converter.stretch reprise.score (before ++ first) second).SoundsLike
    ((converter.stretch reprise.score before first).retimed
      (· + reprise.length converter.resolution))

private theorem exists_doubles (converter : Converter) {reprise : Reprise} {visit : Visit}
    (visited : visit ∈ reprise.score.route) (place : visit.index = reprise.opening)
    (played : visit.repeats.skipping = false) :
    ∃ before first second after, reprise.GoesTwice before first second after ∧
      converter.Doubles reprise before first second := by
  obtain ⟨before, cursor, enters⟩ := Reprise.exists_enters visited place played
  obtain ⟨earlier, _, _, opened, -⟩ := enters.opened
  obtain ⟨first, second, after, twice, once, again⟩ := Reprise.exists_goesTwice enters
  have restored : (({} : Playhead).afterVisits reprise.score converter.resolution before).running =
      (({} : Playhead).afterVisits reprise.score converter.resolution before).declared := by
    rw [opened, Playhead.afterVisits_append]
    rfl
  have moved : ({} : Playhead).afterVisits reprise.score converter.resolution (before ++ first) =
      (({} : Playhead).afterVisits reprise.score converter.resolution before).retimed
        (· + reprise.length converter.resolution) := by
    rw [Playhead.afterVisits_append, Playhead.afterVisits_eq_after _ _ _ first, once]
    exact Playhead.after_measures _ _ _ reprise.keyless restored
  have secondPass := converter.stretch_soundsLike reprise.score (before ++ first) second
  have firstPass := (converter.stretch_soundsLike reprise.score before first).retimed
    (· + reprise.length converter.resolution)
  have heard := Playhead.perform_retimed
    (.later converter.resolution (reprise.length converter.resolution)) reprise.score
    (({} : Playhead).afterVisits reprise.score converter.resolution before)
    (reprise.body ++ [.barLine])
  simp only [Retiming.later] at heard
  rw [moved, again, heard, SoundEncoding.render_retimed] at secondPass
  rw [once] at firstPass
  exact ⟨before, first, second, after, twice, by rw [clock, moved]; rfl,
    secondPass.events.trans firstPass.events.symm, secondPass.fault.trans firstPass.fault.symm⟩

/-- A repeat that is opened while nothing is skipped is gone through twice. What its second pass
leaves on the track is what the first one does, later by as long as the section lasts. -/
theorem convert_reprise (converter : Converter) (reprise : Reprise) (visit : Visit)
    (visited : visit ∈ reprise.score.route) (place : visit.index = reprise.opening)
    (played : visit.repeats.skipping = false) :
    ∃ before first second after, reprise.GoesTwice before first second after ∧
      converter.Doubles reprise before first second ∧
      ∀ track, (converter.convert reprise.score).result = .ok track →
        ∃ channel program, track.events = programEvent channel program ::
          ((converter.stretch reprise.score [] before).events ++
            (converter.stretch reprise.score before first).events ++
            (converter.stretch reprise.score before first).events.map
              (Event.retimed (· + reprise.length converter.resolution)) ++
            (converter.stretch reprise.score (before ++ first ++ second) after).events) := by
  obtain ⟨before, first, second, after, twice, doubles⟩ :=
    converter.exists_doubles visited place played
  refine ⟨before, first, second, after, twice, doubles, fun track converted => ?_⟩
  obtain ⟨sound, channel, program, events⟩ := events_of_route converted
  rw [twice.route] at sound events
  obtain ⟨thirdSound, fourth⟩ := stretch_eq_none sound
  obtain ⟨secondSound, third⟩ := stretch_eq_none thirdSound
  obtain ⟨-, both⟩ := stretch_eq_none secondSound
  have later := doubles.sounds.events
  refine ⟨channel, program, ?_⟩
  rw [events, fourth, third, both]
  simp only [List.nil_append, later]
  rfl

end Converter

/-- In D major the section makes a C natural. The bar lines in it and at its end undo that. -/
def Reprise.undone : Reprise where
  front := [.key (.alter .sharp [.f, .c])]
  body := [.note { id := 0, accidental := some .natural, grace := [{ id := 1, duration := 48 }] },
    .bar (.line .simple), .note { id := 2 }]
  rest := [.note { id := 3 }]
  plain := by decide
  keyless := by simp

/-- The first pass starts notes at 0, 48 and 144, and the second at 240, 288 and 384. -/
theorem Converter.convert_reprise_undone :
    ∃ visit ∈ Reprise.undone.score.route, visit.index = Reprise.undone.opening ∧
      visit.repeats.skipping = false ∧
      (∃ before first second after, Reprise.undone.GoesTwice before first second after ∧
        Converter.usual.Doubles Reprise.undone before first second) ∧
      Reprise.undone.length 96 = 240 ∧
      ((Converter.usual.convert Reprise.undone.score).result.toOption.map fun track =>
        (track.events.filter (·.kind = .noteOn)).map fun event =>
          (event.tick, event.message.note?)) =
        some [(0, some 61), (48, some 60), (144, some 61), (240, some 61), (288, some 60),
          (384, some 61), (480, some 61)] := by
  have visited : ⟨1, .bar (.line .repeatOpen), {}⟩ ∈ Reprise.undone.score.route := by
    rw [Score.route, Score.routeFrom_of_some rfl, Score.routeFrom_of_some rfl]
    exact List.mem_cons_of_mem _ List.mem_cons_self
  obtain ⟨before, first, second, after, twice, doubles, -⟩ :=
    Converter.usual.convert_reprise Reprise.undone _ visited rfl rfl
  exact ⟨_, visited, rfl, rfl, ⟨before, first, second, after, twice, doubles⟩, by decide +kernel,
    by decide +kernel⟩

end ScorePlayback
