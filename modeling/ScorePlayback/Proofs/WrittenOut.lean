import ScorePlayback.Proofs.Heard
import ScorePlayback.Proofs.Walk

/-! Repeats written out. A score is converted like the score without repeats that lists its items as
they are performed, as long as the partners of its ties are among them. -/

namespace ScorePlayback

/-- Whether an item is anything but a repeat mark or a numbered ending. -/
def Item.isPlain : Item → Bool
  | .bar (.line .simple) => true
  | .bar _ => false
  | _ => true

private theorem Item.isMark_of_isPlain {item : Item} (plain : item.isPlain = true) :
    item.isMark = false := by
  match item with
  | .bar (.line .simple) => rfl
  | .note _ | .chord _ | .key _ | .tempo _ | .absent => rfl

namespace RepeatState

theorem sentBack?_of_isPlain {item : Item} (plain : item.isPlain = true) (state : RepeatState) :
    state.sentBack? item = none := by
  refine sentBack?_eq_none_iff.mpr (.inr ?_)
  match item with
  | .bar (.line .simple) => exact Int.natCast_nonneg _
  | .note _ | .chord _ | .key _ | .tempo _ | .absent => exact Int.natCast_nonneg _

theorem past_of_isPlain {item : Item} (plain : item.isPlain = true) (state : RepeatState)
    (index : Nat) : state.past index item = state := by
  match item with
  | .bar (.line .simple) => rfl
  | .note _ | .chord _ | .key _ | .tempo _ | .absent => rfl

theorem straight_of_isPlain {items : List Item} (plain : ∀ item ∈ items, item.isPlain = true)
    (state : RepeatState) : state.Straight items := fun item member =>
  ⟨Item.isMark_of_isPlain (plain item member), sentBack?_of_isPlain (plain item member) state⟩

end RepeatState

theorem Visit.performed_of_isPlain {item : Item} (plain : item.isPlain = true)
    {state : RepeatState} (played : state.skipping = false) (index : Nat) :
    Visit.performed ⟨index, item, state⟩ = some item := by
  match item with
  | .bar (.line .simple) => rfl
  | .note _ | .chord _ | .key _ | .tempo _ | .absent => simp [Visit.performed, played]

theorem Cursor.performed_visits {cursor : Cursor} {items : List Item}
    (plain : ∀ item ∈ items, item.isPlain = true) (played : cursor.repeats.skipping = false) :
    (cursor.visits items).filterMap Visit.performed = items := by
  induction items generalizing cursor with
  | nil => rfl
  | cons item rest ih =>
    have first := plain item List.mem_cons_self
    obtain ⟨-, repeats⟩ := next_of_passed (RepeatState.sentBack?_of_isPlain first cursor.repeats)
    rw [RepeatState.past_of_isPlain first] at repeats
    have later := ih (fun other member => plain other (List.mem_cons_of_mem _ member))
      (by rw [repeats, played])
    rw [visits, List.filterMap_cons_some (Visit.performed_of_isPlain first played _), later]

namespace Score

theorem performed_of_isPlain {score : Score} (plain : ∀ item ∈ score.items, item.isPlain = true) :
    score.performed = score.items := by
  have straight := RepeatState.straight_of_isPlain plain Cursor.start.repeats
  have ahead : score.items.drop Cursor.start.index = score.items ++ [] := by simp [Cursor.start]
  have walk := straight.walk ahead
  have past : score.items[(Cursor.start.run score.items).index]? = none := by
    rw [straight.run.1]
    exact List.getElem?_eq_none (Nat.le_add_left _ _)
  have route := walk.routeFrom_eq
  rw [routeFrom_of_none past, List.append_nil] at route
  rw [performed, Score.route, route]
  exact Cursor.performed_visits plain rfl

/-- The score without repeats that lists what is performed. -/
def writtenOut (score : Score) : Score := ⟨score.performed⟩

theorem mem_performed {score : Score} {item : Item} (member : item ∈ score.performed) :
    item = .bar (.line .simple) ∨ item.isPlain = true ∧ item ∈ score.items := by
  obtain ⟨visit, visited, performed⟩ := List.mem_filterMap.mp member
  obtain ⟨final, walk, -⟩ := Walk.of_routeFrom score .start
  have inside := List.mem_of_getElem? (walk.getElem?_of_mem visited)
  obtain ⟨index, visitedItem, repeats⟩ := visit
  cases visitedItem with
  | bar bar =>
    cases performed
    exact .inl rfl
  | note | chord | key | tempo | absent =>
    simp only [Visit.performed, Option.ite_none_left_eq_some, Option.some.injEq] at performed
    obtain ⟨-, rfl⟩ := performed
    exact .inr ⟨rfl, inside⟩

theorem performed_writtenOut (score : Score) : score.writtenOut.performed = score.performed := by
  refine performed_of_isPlain fun item member => ?_
  rcases mem_performed member with rfl | ⟨plain, -⟩
  · rfl
  · exact plain

end Score

/-- The notes of an item that are timed when it is played, grace notes included. -/
def Item.timed : Item → List Note
  | .note single => single.grace ++ [single]
  | .chord together => together.notes
  | _ => []

/-- Whatever partner of a tie is found in a score is also found in the other. -/
def Score.KeepsPartners (score other : Score) : Prop :=
  ∀ item ∈ score.items, ∀ note ∈ item.timed, note.beginsTie = true →
    ∀ id, note.tiedTo = some id →
      ∀ partner, score.find? id = some partner → other.find? id = some partner

theorem Score.find?_writtenOut_eq_none {score : Score} {id : Nat}
    (missing : score.find? id = none) : score.writtenOut.find? id = none := by
  refine List.findSome?_eq_none_iff.mpr fun item member => ?_
  rcases mem_performed member with rfl | ⟨-, inside⟩
  · rfl
  · exact List.findSome?_eq_none_iff.mp missing item inside

theorem Note.ticks_congr {score other : Score} {note : Note} (resolution : Int)
    (same : note.beginsTie = true → note.tiedTo.bind score.find? = note.tiedTo.bind other.find?) :
    note.ticks score resolution = note.ticks other resolution := by
  unfold ticks partnerUnits
  split
  next begins => rw [same begins]
  next => rfl

theorem Chord.ticks_congr {score other : Score} {chord : Chord} (resolution : Int)
    (same : ∀ note ∈ chord.notes, note.ticks score resolution = note.ticks other resolution) :
    chord.ticks score resolution = chord.ticks other resolution := by
  unfold ticks
  cases shortest : Chord.shortest? chord.withoutTieEndings with
  | none => rfl
  | some note =>
    have member := (List.mem_filter.mp (shortest?_spec shortest).1).1
    exact same note member

namespace Playhead
variable {score other : Score} {resolution : Int}

private theorem playEach_congr (head : Playhead) {notes : List Note}
    (same : ∀ note ∈ notes, note.ticks score resolution = note.ticks other resolution) :
    head.playEach score resolution notes = head.playEach other resolution notes := by
  induction notes generalizing head with
  | nil => rfl
  | cons note rest ih =>
    have single : head.playSingle score resolution note =
        head.playSingle other resolution note := by
      unfold playSingle
      rw [same note List.mem_cons_self]
    have rest := fun head => ih head fun note member => same note (List.mem_cons_of_mem _ member)
    simp only [playEach, single, rest]

theorem performItem_congr (head : Playhead) {item : Item}
    (same : ∀ note ∈ item.timed, note.ticks score resolution = note.ticks other resolution) :
    head.performItem score resolution item = head.performItem other resolution item := by
  cases item with
  | note single =>
    have each : head.playEach score resolution (single.grace ++ [single]) =
        head.playEach other resolution (single.grace ++ [single]) := playEach_congr head same
    simp only [performItem, playItem, playNote, each]
  | chord together =>
    simp only [performItem, playItem, playChord]
    rw [Chord.ticks_congr resolution same]
  | bar | key | tempo | absent => rfl

/-- Scores in which the notes of some items last equally long perform these items alike. -/
theorem perform_congr (head : Playhead) {items : List Item}
    (same : ∀ item ∈ items, ∀ note ∈ item.timed,
      note.ticks score resolution = note.ticks other resolution) :
    head.perform score resolution items = head.perform other resolution items := by
  induction items generalizing head with
  | nil => rfl
  | cons item rest ih =>
    have first := performItem_congr head (same item List.mem_cons_self)
    have rest := fun head => ih head fun item member => same item (List.mem_cons_of_mem _ member)
    simp only [perform, first, rest]

end Playhead

theorem Score.KeepsPartners.ticks_eq {score : Score} (kept : score.KeepsPartners score.writtenOut)
    (resolution : Int) {item : Item} (member : item ∈ score.performed) {note : Note}
    (timed : note ∈ item.timed) :
    note.ticks score.writtenOut resolution = note.ticks score resolution := by
  rcases mem_performed member with rfl | ⟨-, inside⟩
  · cases timed
  · refine Note.ticks_congr resolution fun begins => ?_
    cases tied : note.tiedTo with
    | none => rfl
    | some id =>
      cases found : score.find? id with
      | none => exact (find?_writtenOut_eq_none found).trans found.symm
      | some partner =>
        have present := kept item inside note timed begins id tied partner found
        exact present.trans found.symm

/-- Writing out the repeats of a score changes nothing of what it is converted to. -/
theorem Converter.convert_writtenOut {ε : Type} [Encodes ε] (converter : Converter ε)
    (score : Score) (kept : score.KeepsPartners score.writtenOut) :
    (converter.convert score.writtenOut).result = (converter.convert score).result := by
  refine converter.result_eq_of_heard ?_
  rw [Score.heard_script, Score.heard_script, Score.performed_writtenOut]
  exact Playhead.perform_congr {} fun item member note timed => kept.ticks_eq _ member timed

/-- The second ending begins with the end of a tie from before it. -/
def Score.tiedRepeat : Score where
  items := [.bar (.line .repeatOpen), .note { id := 0, beginsTie := true, tiedTo := some 2 },
    .bar (.ending { target := 1 }), .note { id := 1, letter := .d }, .bar (.line .repeatClose),
    .bar (.ending { target := 2 }), .note { id := 2, endsTie := true }]

theorem Score.keepsPartners_tiedRepeat : tiedRepeat.KeepsPartners tiedRepeat.writtenOut := by
  intro item member note timed begins id tied partner found
  have kept : tiedRepeat.writtenOut.find? 2 = tiedRepeat.find? 2 := by with_unfolding_all rfl
  simp only [tiedRepeat, List.mem_cons, List.not_mem_nil, or_false] at member
  rcases member with rfl | rfl | rfl | rfl | rfl | rfl | rfl <;>
    simp only [Item.timed, List.nil_append, List.mem_singleton, List.not_mem_nil] at timed <;>
    subst timed <;> cases tied
  exact kept.trans found

theorem Converter.convert_writtenOut_tiedRepeat :
    Score.tiedRepeat.KeepsPartners Score.tiedRepeat.writtenOut ∧
      (Converter.usual.convert Score.tiedRepeat.writtenOut).result =
        (Converter.usual.convert Score.tiedRepeat).result :=
  ⟨Score.keepsPartners_tiedRepeat,
    Converter.usual.convert_writtenOut _ Score.keepsPartners_tiedRepeat⟩

end ScorePlayback
