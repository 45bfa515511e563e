import ScorePlayback.Conversion

/-! What is heard of a score: every cue but the remarks. Only the items that are performed matter
for it, in the order in which they are, and it decides the result of a conversion. -/

namespace ScorePlayback

def Cue.isHeard : Cue → Bool
  | .remark _ => false
  | _ => true

def heard (cues : List Cue) : List Cue := cues.filter Cue.isHeard

theorem heard_append (first second : List Cue) :
    heard (first ++ second) = heard first ++ heard second := List.filter_append ..

/-- What a visit contributes: a bar line, skipped or not, starts a measure, and any other item is
played unless it is skipped. -/
def Visit.performed (visit : Visit) : Option Item :=
  match visit.item with
  | .bar _ => some (.bar (.line .simple))
  | item => if visit.repeats.skipping then none else some item

/-- The items of a score as they are performed, with every bar line a plain one. -/
def Score.performed (score : Score) : List Item := score.route.filterMap Visit.performed

namespace Playhead

def performItem (score : Score) (resolution : Int) (head : Playhead) : Item → Playhead × List Cue
  | .bar _ => ({ head with running := head.declared }, [])
  | item => head.playItem score resolution item

def perform (score : Score) (resolution : Int) (head : Playhead) : List Item → List Cue
  | [] => []
  | item :: rest =>
    let (head, first) := head.performItem score resolution item
    first ++ head.perform score resolution rest

/-- The playhead when items have been performed. -/
def after (score : Score) (resolution : Int) (head : Playhead) (items : List Item) : Playhead :=
  items.foldl (fun head item => (head.performItem score resolution item).1) head

theorem perform_append (score : Score) (resolution : Int) (head : Playhead)
    (first second : List Item) :
    head.perform score resolution (first ++ second) = head.perform score resolution first ++
      (head.after score resolution first).perform score resolution second := by
  induction first generalizing head with
  | nil => rfl
  | cons item rest ih =>
    have later := ih (head.performItem score resolution item).1
    simp only [List.cons_append, perform, later, List.append_assoc]
    rfl

variable {score : Score} {resolution : Int}

private theorem heard_playEach (head : Playhead) (notes : List Note) :
    heard (head.playEach score resolution notes).2 =
      (head.playEach score resolution notes).2 := by
  induction notes generalizing head with
  | nil => rfl
  | cons note rest ih =>
    have single : heard (head.playSingle score resolution note).2 =
        (head.playSingle score resolution note).2 := by
      unfold playSingle
      split <;> rfl
    simp only [playEach, heard_append, single, ih]

private theorem heard_playItem (head : Playhead) (item : Item) :
    heard (head.playItem score resolution item).2 =
      (head.playItem score resolution item).2 := by
  cases item with
  | note note =>
    simp only [playItem, playNote]
    split
    next => rfl
    next => exact heard_playEach ..
  | chord | bar | key | tempo | absent => rfl

private theorem heard_remarks (repeats : RepeatState) (index : Nat) (tick : Int) (bar : Bar) :
    heard (remarks repeats index tick bar) = [] := by
  unfold remarks
  split
  next => rfl
  next =>
    dsimp only
    split <;> rfl

/-- Of the visits of a route the performed items decide what is heard. -/
theorem heard_cues (head : Playhead) (visits : List Visit) :
    heard (head.cues score resolution visits) =
      head.perform score resolution (visits.filterMap Visit.performed) := by
  induction visits generalizing head with
  | nil => rfl
  | cons visit rest ih =>
    simp only [cues, heard_append, ih]
    obtain ⟨index, item, repeats⟩ := visit
    cases item with
    | bar bar => simp [Visit.performed, Playhead.visit, heard_remarks, perform, performItem]
    | note | chord | key | tempo | absent =>
      cases skipped : repeats.skipping with
      | true => simp [Visit.performed, Playhead.visit, skipped, heard]
      | false =>
        simp [Visit.performed, Playhead.visit, skipped, perform, performItem, heard_playItem]

end Playhead

theorem Score.heard_script (score : Score) (resolution : Int) :
    heard (score.script resolution) =
      ({} : Playhead).perform score resolution score.performed := Playhead.heard_cues ..

/-- The same events, and the same fault if there is one. -/
structure Rendering.SoundsLike (first second : Rendering) : Prop where
  events : first.events = second.events
  fault : first.fault = second.fault

theorem Rendering.SoundsLike.append {first first' second second' : Rendering}
    (start : first.SoundsLike first') (rest : second.SoundsLike second') :
    (first ++ second).SoundsLike (first' ++ second') := by
  cases failed : first.fault with
  | some fault =>
    rw [append_eq_of_fault failed, append_eq_of_fault (start.fault.symm.trans failed)]
    exact start
  | none =>
    rw [append_eq_of_none failed, append_eq_of_none (start.fault.symm.trans failed)]
    exact ⟨by rw [start.events, rest.events], rest.fault⟩

namespace SoundEncoding

theorem render_cons (encoding : SoundEncoding) (cue : Cue) (rest : List Cue) :
    encoding.render (cue :: rest) = encoding.renderCue cue ++ encoding.render rest := rfl

theorem render_heard (encoding : SoundEncoding) (cues : List Cue) :
    (encoding.render cues).SoundsLike (encoding.render (heard cues)) := by
  induction cues with
  | nil => exact ⟨rfl, rfl⟩
  | cons cue rest ih =>
    cases cue with
    | remark =>
      rw [render_cons, Rendering.append_eq_of_none rfl]
      exact ⟨ih.events, ih.fault⟩
    | tempo | sound => exact Rendering.SoundsLike.append ⟨rfl, rfl⟩ ih

end SoundEncoding

/-- Scores of which the same is heard are converted with the same result. -/
theorem Converter.result_eq_of_heard {ε : Type} [Encodes ε] (converter : Converter ε)
    {first second : Score}
    (same : heard (first.script converter.resolution) =
      heard (second.script converter.resolution)) :
    (converter.convert first).result = (converter.convert second).result := by
  unfold convert
  cases converter.loadInstrument with
  | error => rfl
  | ok loaded =>
    obtain ⟨instrument, records⟩ := loaded
    have sounds : (converter.rendering instrument first).SoundsLike
        (converter.rendering instrument second) := by
      have firstHeard := converter.sounds.render_heard (first.script converter.resolution)
      have secondHeard := converter.sounds.render_heard (second.script converter.resolution)
      rw [rendering_eq, rendering_eq]
      refine Rendering.SoundsLike.append ⟨rfl, rfl⟩ ⟨?_, ?_⟩
      · rw [firstHeard.events, secondHeard.events, same]
      · rw [firstHeard.fault, secondHeard.fault, same]
    simp only [sounds.fault, sounds.events]
    cases (converter.rendering instrument second).fault <;> rfl

end ScorePlayback
