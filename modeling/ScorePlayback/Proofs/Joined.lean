import ScorePlayback.Proofs.Measures
import ScorePlayback.Proofs.Retiming
import ScorePlayback.Proofs.Section

/-! Scores one after the other. A score that opens no repeat leaves the repeats as it finds them,
and a key at the front of the next score makes it forget what was written before, so that nothing
but the clock goes over from one to the other. -/

namespace ScorePlayback

namespace Score

instance : Append Score := ⟨fun front back => ⟨front.items ++ back.items⟩⟩

theorem items_append (front back : Score) : (front ++ back).items = front.items ++ back.items := rfl

theorem find?_append (front back : Score) (id : Nat) :
    (front ++ back).find? id = (front.find? id).or (back.find? id) := by
  rw [find?, items_append, List.findSome?_append]
  rfl

/-- Whatever partner of a tie in the part is found in the whole is found in the part. -/
def PartnersWithin (part whole : Score) : Prop :=
  ∀ item ∈ part.items, ∀ note ∈ item.timed, note.beginsTie = true →
    ∀ id, note.tiedTo = some id →
      ∀ partner, whole.find? id = some partner → part.find? id = some partner

theorem PartnersWithin.ticks_eq {part whole : Score} (within : part.PartnersWithin whole)
    (inside : ∀ id, whole.find? id = none → part.find? id = none) (resolution : Int)
    {item : Item} (member : item ∈ part.performed) {note : Note} (timed : note ∈ item.timed) :
    note.ticks whole resolution = note.ticks part resolution := by
  rcases mem_performed member with rfl | ⟨-, here⟩
  · cases timed
  · refine Note.ticks_congr resolution fun begins => ?_
    cases tied : note.tiedTo with
    | none => rfl
    | some id =>
      cases found : whole.find? id with
      | none => exact found.trans (inside id found).symm
      | some partner =>
        exact found.trans (within item here note timed begins id tied partner found).symm

end Score

/-- An item as it is performed when nothing is skipped. -/
def Item.performed : Item → Item
  | .bar _ => .barLine
  | item => item

theorem Visit.performed_of_played {repeats : RepeatState} (played : repeats.skipping = false)
    (index : Nat) (item : Item) : Visit.performed ⟨index, item, repeats⟩ = some item.performed := by
  cases item with
  | bar => rfl
  | note | chord | key | tempo | absent => simp [Visit.performed, played, Item.performed]

namespace RepeatState

/-- Without an open repeat nothing but an opening or a numbered ending changes anything. -/
theorem past_of_unopened {item : Item} (opens : item.opens = false) (ending : item.target? = none)
    (index : Nat) : ({} : RepeatState).past index item = {} := by
  match item with
  | .bar (.line .simple) | .bar (.line .repeatClose) => rfl
  | .note _ | .chord _ | .key _ | .tempo _ | .absent => rfl

/-- The same repeats where every place lies further on. -/
def moved (distance : Nat) (state : RepeatState) : RepeatState :=
  { state with opening := state.opening.map (distance + ·) }

variable (distance : Nat) (state : RepeatState) (item : Item)

private theorem sentBack?_moved :
    (state.moved distance).sentBack? item = (state.sentBack? item).map (distance + ·) := by
  simp only [sentBack?_eq, moved]
  split <;> rfl

private theorem past_moved (index : Nat) :
    (state.moved distance).past (distance + index) item =
      (state.past index item).moved distance := by
  match item with
  | .bar (.ending _) => rfl
  | .bar (.line .simple) | .bar (.line .repeatClose) => rfl
  | .bar (.line .repeatOpen) | .bar (.line .repeatCloseOpen) => rfl
  | .note _ | .chord _ | .key _ | .tempo _ | .absent => rfl

end RepeatState

/-- At the same item of a score and of a longer one in which it stands further on. -/
structure Cursor.Ahead (distance : Nat) (cursor other : Cursor) : Prop where
  index : other.index = distance + cursor.index
  repeats : other.repeats = cursor.repeats.moved distance

theorem Cursor.Ahead.next {distance : Nat} {cursor other : Cursor}
    (ahead : cursor.Ahead distance other) (item : Item) :
    (cursor.next item).Ahead distance (other.next item) := by
  have both := cursor.repeats.sentBack?_moved distance item
  rw [← ahead.repeats] at both
  cases back : cursor.repeats.sentBack? item with
  | some target =>
    rw [back, Option.map_some] at both
    obtain ⟨index, repeats⟩ := next_of_sentBack back
    obtain ⟨otherIndex, otherRepeats⟩ := next_of_sentBack both
    refine ⟨by rw [otherIndex, index, Nat.add_assoc], ?_⟩
    rw [otherRepeats, repeats, ahead.repeats]
    rfl
  | none =>
    rw [back, Option.map_none] at both
    obtain ⟨index, repeats⟩ := next_of_passed back
    obtain ⟨otherIndex, otherRepeats⟩ := next_of_passed both
    refine ⟨by rw [otherIndex, index, ahead.index, Nat.add_assoc], ?_⟩
    rw [otherRepeats, repeats, ahead.repeats, ahead.index, RepeatState.past_moved]

namespace Score
variable {score front back : Score} {cursor other : Cursor}

/-- Items that open nothing are all performed, and the repeats are then as before them. -/
theorem performedFrom_unopened {items rest : List Item}
    (unopened : ∀ item ∈ items, item.opens = false ∧ item.target? = none)
    (closed : cursor.repeats = {}) (ahead : score.items.drop cursor.index = items ++ rest) :
    ∃ final, score.performedFrom cursor = items.map Item.performed ++ score.performedFrom final ∧
      final.index = cursor.index + items.length ∧ final.repeats = {} := by
  induction items generalizing cursor with
  | nil => exact ⟨cursor, rfl, rfl, closed⟩
  | cons item more ih =>
    obtain ⟨opens, ending⟩ := unopened item List.mem_cons_self
    have here : score.items[cursor.index]? = some item := by
      rw [← List.head?_drop, ahead, List.cons_append, List.head?_cons]
    have passed : cursor.repeats.sentBack? item = none :=
      RepeatState.sentBack?_eq_none_iff.mpr (.inl (by rw [closed]))
    obtain ⟨index, repeats⟩ := Cursor.next_of_passed passed
    rw [closed, RepeatState.past_of_unopened opens ending] at repeats
    have behind : score.items.drop (cursor.next item).index = more ++ rest := by
      rw [index, ← List.drop_drop, ahead, List.cons_append, List.drop_one, List.tail_cons]
    obtain ⟨final, performed, place, state⟩ :=
      ih (fun other member => unopened other (List.mem_cons_of_mem _ member)) repeats behind
    have played : cursor.repeats.skipping = false := by rw [closed]
    refine ⟨final, ?_, ?_, state⟩
    · rw [performedFrom_of_some here, performed, Visit.performed_of_played played]
      rfl
    · rw [place, index, List.length_cons]
      omega

/-- What stands behind another score is performed as it is for itself. -/
private theorem performedFrom_ahead (ahead : cursor.Ahead front.items.length other) :
    (front ++ back).performedFrom other = back.performedFrom cursor := by
  induction cursor using Score.routeFrom.induct back generalizing other with
  | case1 cursor past =>
    have ended : (front ++ back).items[other.index]? = none := by
      rw [items_append, ahead.index, List.getElem?_append_right (Nat.le_add_right _ _),
        Nat.add_sub_cancel_left, past]
    rw [performedFrom_of_none past, performedFrom_of_none ended]
  | case2 cursor item here ih =>
    have there : (front ++ back).items[other.index]? = some item := by
      rw [items_append, ahead.index, List.getElem?_append_right (Nat.le_add_right _ _),
        Nat.add_sub_cancel_left, here]
    have skipping : other.repeats.skipping = cursor.repeats.skipping := by
      rw [ahead.repeats]
      rfl
    rw [performedFrom_of_some here, performedFrom_of_some there, ih (ahead.next item),
      Visit.performed_congr skipping cursor.index]

theorem performed_append
    (unopened : ∀ item ∈ front.items, item.opens = false ∧ item.target? = none) :
    (front ++ back).performed = front.performed ++ back.performed := by
  have alone : front.items.drop Cursor.start.index = front.items ++ [] :=
    (List.append_nil _).symm
  have joined : (front ++ back).items.drop Cursor.start.index = front.items ++ back.items := rfl
  obtain ⟨last, single, place, -⟩ := performedFrom_unopened unopened rfl alone
  obtain ⟨middle, whole, index, repeats⟩ := performedFrom_unopened unopened rfl joined
  have ended : front.items[last.index]? = none :=
    List.getElem?_eq_none_iff.mpr (by rw [place]; exact Nat.le_add_left _ _)
  rw [performedFrom_of_none ended, List.append_nil] at single
  have ahead : Cursor.start.Ahead front.items.length middle := by
    refine ⟨?_, repeats⟩
    rw [index]
    exact Nat.add_comm _ _
  rw [performedFrom_ahead ahead, ← single] at whole
  exact whole

/-- At the front of a score a key is performed first. -/
theorem performed_of_key {key : KeySignature} (starts : back.items.head? = some (.key key)) :
    ∃ rest, back.performed = .key key :: rest := by
  have here : back.items[Cursor.start.index]? = some (.key key) := by
    rw [← starts, List.head?_eq_getElem?]
    rfl
  exact ⟨_, performedFrom_of_some here⟩

end Score

namespace Playhead

theorem after_congr {score other : Score} {resolution : Int} (head : Playhead) {items : List Item}
    (same : ∀ item ∈ items, ∀ note ∈ item.timed,
      note.ticks score resolution = note.ticks other resolution) :
    head.after score resolution items = head.after other resolution items := by
  induction items generalizing head with
  | nil => rfl
  | cons item rest ih =>
    have first := performItem_congr head (same item List.mem_cons_self)
    have later := ih (head.performItem other resolution item).1
      fun item member => same item (List.mem_cons_of_mem _ member)
    rw [after, List.foldl_cons, first]
    exact later

/-- From a key on only the clock counts. -/
private theorem perform_key (score : Score) (resolution : Int) (head : Playhead)
    (key : KeySignature)
    (rest : List Item) :
    head.perform score resolution (.key key :: rest) =
      (({} : Playhead).perform score resolution (.key key :: rest)).map
        (Cue.retimed (· + head.clock)) := by
  have moved := ({ declared := some key, running := some key } : Playhead).perform_retimed
    (.later resolution head.clock) score rest
  simp only [Playhead.retimed, Retiming.later, Int.zero_add] at moved
  exact moved

end Playhead

namespace Score
variable {front back : Score} (resolution : Int)

private theorem PartnersWithin.front_ticks (ties : front.PartnersWithin (front ++ back)) :
    ∀ item ∈ front.performed, ∀ note ∈ item.timed,
      note.ticks (front ++ back) resolution = note.ticks front resolution := by
  intro item member note timed
  refine ties.ticks_eq (fun id missing => ?_) resolution member timed
  rw [find?_append, Option.or_eq_none_iff] at missing
  exact missing.1

private theorem PartnersWithin.back_ticks (ties : back.PartnersWithin (front ++ back)) :
    ∀ item ∈ back.performed, ∀ note ∈ item.timed,
      note.ticks (front ++ back) resolution = note.ticks back resolution := by
  intro item member note timed
  refine ties.ticks_eq (fun id missing => ?_) resolution member timed
  rw [find?_append, Option.or_eq_none_iff] at missing
  exact missing.2

/-- Of scores one after the other the second is heard when the first has lasted. -/
theorem perform_append {key : KeySignature}
    (unopened : ∀ item ∈ front.items, item.opens = false ∧ item.target? = none)
    (starts : back.items.head? = some (.key key))
    (frontTies : front.PartnersWithin (front ++ back))
    (backTies : back.PartnersWithin (front ++ back)) :
    ({} : Playhead).perform (front ++ back) resolution (front ++ back).performed =
      ({} : Playhead).perform front resolution front.performed ++
        (({} : Playhead).perform back resolution back.performed).map
          (Cue.retimed (· + front.elapsed resolution front.parts)) := by
  have frontTicks := frontTies.front_ticks resolution
  have backTicks := backTies.back_ticks resolution
  have clock : (({} : Playhead).after front resolution front.performed).clock =
      front.elapsed resolution front.parts :=
    (Playhead.clock_after ..).trans (Int.zero_add _)
  obtain ⟨rest, begun⟩ := performed_of_key starts
  rw [performed_append unopened, Playhead.perform_append, Playhead.perform_congr {} frontTicks,
    Playhead.after_congr {} frontTicks, Playhead.perform_congr _ backTicks, begun,
    Playhead.perform_key, clock]

end Score

/-- Scores one after the other, of which the first opens no repeat and the second starts with a key,
are converted to the events of the first and, when it has lasted, those of the second. -/
theorem Converter.convert_append (converter : Converter) (front back : Score)
    (key : KeySignature) (first second : Track)
    (unopened : ∀ item ∈ front.items, item.opens = false ∧ item.target? = none)
    (starts : back.items.head? = some (.key key))
    (frontTies : front.PartnersWithin (front ++ back))
    (backTies : back.PartnersWithin (front ++ back))
    (frontConverted : (converter.convert front).result = .ok first)
    (backConverted : (converter.convert back).result = .ok second) :
    ∃ program played, second.events = program :: played ∧ program.kind = .programChange ∧
      (converter.convert (front ++ back)).result = .ok ⟨converter.resolution, first.events ++
        played.map (Event.retimed (· + front.elapsed converter.resolution front.parts))⟩ := by
  have joined := Score.perform_append converter.resolution unopened starts frontTies backTies
  obtain ⟨loaded, loading, frontSound, rfl⟩ := performance_of_ok frontConverted
  obtain ⟨again, same, backSound, rfl⟩ := performance_of_ok backConverted
  obtain rfl : again = loaded := Except.ok.inj (same.symm.trans loading)
  obtain ⟨programSound, playedSound, events⟩ := Rendering.append_eq_none backSound
  obtain ⟨channel, program, begun⟩ := events_renderProgram programSound
  refine ⟨programEvent channel program, _, by rw [performance, events, begun]; rfl, rfl, ?_⟩
  have whole : converter.performance again.1 (front ++ back) =
      converter.performance again.1 front ++ (converter.sounds.render
        (({} : Playhead).perform back converter.resolution back.performed)).retimed
          (· + front.elapsed converter.resolution front.parts) := by
    simp only [performance, joined, SoundEncoding.render_append, SoundEncoding.render_retimed,
      Rendering.append_assoc]
  have sound : (converter.performance again.1 (front ++ back)).fault = none := by
    rw [whole, Rendering.append_eq_of_none frontSound]
    exact playedSound
  rw [convert_result, loading, Except.bind, outcome, sound, whole,
    Rendering.append_eq_of_none frontSound]
  rfl

/-- Before any key a sharp is written, a mark closes nothing, and a note is tied to the next. -/
def Score.verse : Score where
  items := [.note { id := 0, letter := .f, accidental := some .sharp }, .bar (.line .repeatClose),
    .note { id := 1, beginsTie := true, tiedTo := some 2 }, .note { id := 2, endsTie := true }]

def Score.refrain : Score where
  items := [.key (.alter .flat [.b]), .bar (.line .repeatOpen), .note { id := 3, letter := .f },
    .note { id := 4, letter := .b }, .bar (.line .repeatClose)]

theorem Score.verse_partnersWithin : verse.PartnersWithin (verse ++ refrain) := by
  intro item member note timed begins id tied partner found
  simp only [verse, List.mem_cons, List.not_mem_nil, or_false] at member
  rcases member with rfl | rfl | rfl | rfl <;>
    simp only [Item.timed, List.nil_append, List.mem_singleton, List.not_mem_nil] at timed <;>
    subst timed <;> cases tied
  exact found

theorem Score.refrain_partnersWithin : refrain.PartnersWithin (verse ++ refrain) := by
  intro item member note timed begins
  simp only [refrain, List.mem_cons, List.not_mem_nil, or_false] at member
  rcases member with rfl | rfl | rfl | rfl | rfl <;>
    simp only [Item.timed, List.nil_append, List.mem_singleton, List.not_mem_nil] at timed <;>
    subst timed <;> cases begins

/-- The verse lasts 288 ticks. In the refrain its sharp is forgotten. -/
theorem Converter.convert_append_refrain :
    ∃ first second : Track,
      (∀ item ∈ Score.verse.items, item.opens = false ∧ item.target? = none) ∧
      Score.refrain.items.head? = some (.key (.alter .flat [.b])) ∧
      Score.verse.PartnersWithin (.verse ++ .refrain) ∧
      Score.refrain.PartnersWithin (.verse ++ .refrain) ∧
      (Converter.usual.convert .verse).result = .ok first ∧
      (Converter.usual.convert .refrain).result = .ok second ∧
      (∃ program played, second.events = program :: played ∧ program.kind = .programChange ∧
        (Converter.usual.convert (.verse ++ .refrain)).result = .ok ⟨96, first.events ++
          played.map (Event.retimed (· + Score.verse.elapsed 96 Score.verse.parts))⟩) ∧
      Score.verse.elapsed 96 Score.verse.parts = 288 := by
  have verse : (Converter.usual.convert .verse).result.isOk = true := by decide +kernel
  have refrain : (Converter.usual.convert .refrain).result.isOk = true := by decide +kernel
  have unopened : ∀ item ∈ Score.verse.items, item.opens = false ∧ item.target? = none := by
    decide
  have first := except_eq_ok_getD verse ⟨0, []⟩
  have second := except_eq_ok_getD refrain ⟨0, []⟩
  exact ⟨_, _, unopened, rfl, Score.verse_partnersWithin, Score.refrain_partnersWithin, first,
    second, convert_append .usual .verse .refrain (.alter .flat [.b]) _ _ unopened rfl
      Score.verse_partnersWithin Score.refrain_partnersWithin first second, by decide +kernel⟩

end ScorePlayback
