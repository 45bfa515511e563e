import ScorePlayback.Proofs.Rendered
import ScorePlayback.Proofs.RunningKey

/-! The note numbers of a track. Every event that starts or ends a note is about a note that is
performed, and its number is what the performance up to that note makes of it. -/

namespace ScorePlayback

/-- The start or the end of a note, and what was performed before it. -/
structure Stroke where
  kind : EventKind
  note : Note
  past : List Moment

/-- All notes that sound at a moment are started, and then all are ended. -/
def Moment.strokes (past : List Moment) (moment : Moment) : List Stroke :=
  moment.sounding.map (⟨.noteOn, ·, past⟩) ++ moment.sounding.map (⟨.noteOff, ·, past⟩)

def strokesAfter (past : List Moment) : List Moment → List Stroke
  | [] => []
  | moment :: rest => moment.strokes past ++ strokesAfter (past ++ [moment]) rest

/-- The starts and ends of all notes of a score as it is performed. -/
def Score.strokes (score : Score) : List Stroke :=
  strokesAfter [] (score.performed.flatMap Item.moments)

def Stroke.sign (stroke : Stroke) : EventKind × Option Int :=
  (stroke.kind, some (stroke.note.numberAfter stroke.past))

def Event.isStroke (event : Event) : Bool := event.kind = .noteOn || event.kind = .noteOff

/-- The kinds and note numbers of the events that start or end notes. -/
def noteSigns (events : List Event) : List (EventKind × Option Int) :=
  (events.filter Event.isStroke).map fun event => (event.kind, event.message.note?)

theorem noteSigns_append (first second : List Event) :
    noteSigns (first ++ second) = noteSigns first ++ noteSigns second := by
  simp only [noteSigns, List.filter_append, List.map_append]

theorem strokesAfter_append (past first second : List Moment) :
    strokesAfter past (first ++ second) =
      strokesAfter past first ++ strokesAfter (past ++ first) second := by
  induction first generalizing past with
  | nil => simp [strokesAfter]
  | cons moment rest ih => simp [strokesAfter, ih]

def Cue.signs : Cue → List (EventKind × Option Int)
  | .sound _ _ notes key =>
    notes.map (fun note => (.noteOn, some (note.number key))) ++
      notes.map (fun note => (.noteOff, some (note.number key)))
  | _ => []

namespace Encoding
variable {encoding : Encoding}

private theorem noteSigns_join {key : Option KeySignature} {kind : EventKind}
    {render : Note → Rendering} {notes : List Note}
    (single : ∀ note, (render note).fault = none →
      noteSigns (render note).events = [(kind, some (note.number key))])
    (sound : (Rendering.join (notes.map render)).fault = none) :
    noteSigns (Rendering.join (notes.map render)).events =
      notes.map fun note => (kind, some (note.number key)) := by
  induction notes with
  | nil => rfl
  | cons note rest ih =>
    rw [List.map_cons, Rendering.join] at sound ⊢
    obtain ⟨first, more, events⟩ := Rendering.append_eq_none sound
    rw [events, noteSigns_append, single note first, ih more]
    rfl

private theorem noteSigns_renderNoteOn {tick : Int} {key : Option KeySignature} (note : Note)
    (sound : (encoding.sounds.renderNoteOn tick key note).fault = none) :
    noteSigns (encoding.sounds.renderNoteOn tick key note).events =
      [(.noteOn, some (note.number key))] := by
  obtain ⟨message, built, events⟩ := Rendering.single_eq_none sound
  rw [renderNoteOn_sounds, events, ← note?_noteOn (except_mapError_eq_ok.mp built)]
  rfl

private theorem noteSigns_renderNoteOff {tick : Int} {key : Option KeySignature} (note : Note)
    (sound : (encoding.sounds.renderNoteOff tick key note).fault = none) :
    noteSigns (encoding.sounds.renderNoteOff tick key note).events =
      [(.noteOff, some (note.number key))] := by
  obtain ⟨message, built, events⟩ := Rendering.single_eq_none sound
  rw [renderNoteOff_sounds, events, ← note?_noteOff (except_mapError_eq_ok.mp built)]
  rfl

private theorem noteSigns_renderCue (cue : Cue)
    (sound : (encoding.sounds.renderCue cue).fault = none) :
    noteSigns (encoding.sounds.renderCue cue).events = cue.signs := by
  cases cue with
  | tempo tick tempo =>
    obtain ⟨message, -, events⟩ := Rendering.single_eq_none sound
    rw [SoundEncoding.renderCue, renderTempo_sounds, events]
    rfl
  | sound tick duration notes key =>
    obtain ⟨starts, ends, events⟩ := Rendering.append_eq_none sound
    rw [SoundEncoding.renderCue, SoundEncoding.renderSound, events, noteSigns_append,
      noteSigns_join noteSigns_renderNoteOn starts, noteSigns_join noteSigns_renderNoteOff ends]
    rfl
  | remark => rfl

theorem noteSigns_render {cues : List Cue} (sound : (encoding.sounds.render cues).fault = none) :
    noteSigns (encoding.sounds.render cues).events = cues.flatMap Cue.signs := by
  induction cues with
  | nil => rfl
  | cons cue rest ih =>
    rw [SoundEncoding.render_cons] at sound ⊢
    obtain ⟨first, more, events⟩ := Rendering.append_eq_none sound
    rw [events, noteSigns_append, noteSigns_renderCue cue first, ih more, List.flatMap_cons]

theorem noteSigns_renderProgram {tick : Int} {instrument : Instrument}
    (sound : (encoding.sounds.renderProgram tick instrument).fault = none) :
    noteSigns (encoding.sounds.renderProgram tick instrument).events = [] := by
  obtain ⟨message, -, events⟩ := Rendering.single_eq_none sound
  rw [renderProgram_sounds, events]
  rfl

end Encoding

namespace Playhead
variable {head : Playhead} {past : List Moment} (score : Score) (resolution : Int)

/-- A cue for the notes of a moment, read in the running key, has the signs of the moment. -/
theorem Follows.signs (follows : head.Follows past) (tick duration : Int) (moment : Moment) :
    (Cue.sound tick duration moment.sounding head.running).signs =
      (moment.strokes past).map Stroke.sign := by
  simp only [Cue.signs, Moment.strokes, List.map_append, List.map_map, follows.running,
    Note.number_runningKey]
  rfl

private theorem signs_playSingle (follows : head.Follows past) (note : Note) :
    (head.playSingle score resolution note).2.flatMap Cue.signs =
      ((Moment.single note).strokes past).map Stroke.sign := by
  have sound := follows.signs head.clock (note.ticks score resolution) (.single note)
  unfold playSingle
  split
  next sounds =>
    simp only [Moment.sounding, sounds, if_true] at sound
    rw [List.flatMap_singleton, sound]
  next silent => simp [Moment.strokes, Moment.sounding, silent]

private theorem signs_playEach (follows : head.Follows past) (notes : List Note) :
    (head.playEach score resolution notes).2.flatMap Cue.signs =
      (strokesAfter past (notes.map .single)).map Stroke.sign := by
  induction notes generalizing head past with
  | nil => rfl
  | cons note rest ih =>
    have first := signs_playSingle score resolution follows note
    have more := ih (follows.playSingle score resolution note)
    simp only [playEach, List.flatMap_append, first, more, List.map_cons, strokesAfter,
      List.map_append]

private theorem signs_performItem (follows : head.Follows past) (item : Item) :
    (head.performItem score resolution item).2.flatMap Cue.signs =
      (strokesAfter past item.moments).map Stroke.sign := by
  cases item with
  | note single =>
    simp only [performItem, playItem, playNote, Item.moments]
    split
    next => rfl
    next => exact signs_playEach score resolution follows (single.grace ++ [single])
  | chord together =>
    have sound := follows.signs head.clock (together.ticks score resolution) (.chord together.notes)
    rw [Item.moments, strokesAfter, strokesAfter, List.append_nil, ← sound]
    exact List.flatMap_singleton ..
  | bar | key | tempo | absent => rfl

theorem signs_perform (follows : head.Follows past) (items : List Item) :
    (head.perform score resolution items).flatMap Cue.signs =
      (strokesAfter past (items.flatMap Item.moments)).map Stroke.sign := by
  induction items generalizing head past with
  | nil => rfl
  | cons item rest ih =>
    have first := signs_performItem score resolution follows item
    have more := ih (follows.performItem score resolution item)
    simp only [perform, List.flatMap_append, first, more, List.flatMap_cons, strokesAfter_append,
      List.map_append]

end Playhead

/-- The events that start and end notes are those of the score as it is performed, with the numbers
that the performance makes of them. -/
theorem Converter.noteSigns_convert (converter : Converter) (score : Score) (track : Track)
    (converted : (converter.convert score).result = .ok track) :
    noteSigns track.events = score.strokes.map Stroke.sign := by
  obtain ⟨instrument, records, -, sound, rfl⟩ := convert_eq_ok converted
  rw [rendering_eq, sounds_eq] at sound ⊢
  obtain ⟨program, rest, events⟩ := Rendering.append_eq_none sound
  have heard := converter.encoding.sounds.render_heard (score.script converter.resolution)
  rw [events, noteSigns_append, Encoding.noteSigns_renderProgram program, List.nil_append,
    heard.events, Encoding.noteSigns_render (heard.fault.symm.trans rest), Score.heard_script]
  exact Playhead.signs_perform score converter.resolution .start score.performed

/-- An F in G major is made natural and then, in a chord, flat. The repeat mark undoes both. -/
def Score.naturalised : Score where
  items := [.key (.alter .sharp [.f]), .bar (.line .repeatOpen), .note { id := 0, letter := .f },
    .note { id := 1, letter := .f, accidental := some .natural },
    .chord ⟨[{ id := 2, letter := .f }, { id := 3, letter := .f, accidental := some .flat }]⟩,
    .note { id := 4, letter := .f }, .bar (.line .repeatClose)]

def Converter.flute : Converter where
  encoding := {}
  bank := .lenient [⟨.ofString "Flute", .int 73⟩]

theorem Converter.noteSigns_convert_naturalised :
    ∃ track, (flute.convert Score.naturalised).result = .ok track ∧
      noteSigns track.events = Score.naturalised.strokes.map Stroke.sign ∧
      Score.naturalised.strokes.map (fun stroke => stroke.note.numberAfter stroke.past) =
        [66, 66, 65, 65, 65, 64, 65, 64, 64, 64, 66, 66, 65, 65, 65, 64, 65, 64, 64, 64] := by
  have succeeds : (flute.convert Score.naturalised).result.isOk = true := by decide +kernel
  cases converted : (flute.convert Score.naturalised).result with
  | error => rw [converted] at succeeds; cases succeeds
  | ok track =>
    have signs := noteSigns_convert flute Score.naturalised track converted
    exact ⟨track, rfl, signs, by decide +kernel⟩

end ScorePlayback
