import ScorePlayback.Proofs.Blocks

/-! A performance at other times. Where lengths are kept or stretched evenly, what is heard stays
the same but for its moments. Main statement: at a multiple of the usual resolution a score is
converted to the same events, at the same multiple of their ticks. -/

namespace ScorePlayback

def Event.retimed (moment : Int → Int) (event : Event) : Event :=
  { event with tick := moment event.tick }

def Remark.retimed (moment : Int → Int) : Remark → Remark
  | .goesBack index opening pass tick => .goesBack index opening pass (moment tick)
  | .skips index pass => .skips index pass

/-- A sound starts and ends at the moments of its start and its end. -/
def Cue.retimed (moment : Int → Int) : Cue → Cue
  | .tempo tick marked => .tempo (moment tick) marked
  | .sound tick duration notes key =>
    .sound (moment tick) (moment (tick + duration) - moment tick) notes key
  | .remark made => .remark (made.retimed moment)

def Playhead.retimed (moment : Int → Int) (head : Playhead) : Playhead :=
  { head with clock := moment head.clock }

namespace Rendering

def retimed (moment : Int → Int) (rendering : Rendering) : Rendering where
  events := rendering.events.map (Event.retimed moment)
  remarks := rendering.remarks.map (Remark.retimed moment)
  fault := rendering.fault

variable (moment : Int → Int)

theorem retimed_append (first second : Rendering) :
    (first ++ second).retimed moment = first.retimed moment ++ second.retimed moment := by
  cases failed : first.fault with
  | some fault =>
    have retimed : (first.retimed moment).fault = some fault := failed
    rw [append_eq_of_fault failed, append_eq_of_fault retimed]
  | none =>
    have retimed : (first.retimed moment).fault = none := failed
    rw [append_eq_of_none failed, append_eq_of_none retimed]
    simp only [Rendering.retimed, List.map_append]

theorem retimed_join {render later : Note → Rendering}
    (single : ∀ note, (render note).retimed moment = later note) (notes : List Note) :
    (join (notes.map render)).retimed moment = join (notes.map later) := by
  induction notes with
  | nil => rfl
  | cons note rest ih => simp only [List.map_cons, join, retimed_append, single, ih]

theorem retimed_several (tick : Int) (kind : EventKind)
    (messages : Except EventFault (List Message)) :
    (several tick kind messages).retimed moment = several (moment tick) kind messages := by
  cases messages with
  | error => rfl
  | ok messages => simp only [retimed, several, List.map_map, List.map_nil]; rfl

theorem SoundsLike.retimed {first second : Rendering} (sounds : first.SoundsLike second) :
    (first.retimed moment).SoundsLike (second.retimed moment) :=
  ⟨congrArg (List.map _) sounds.events, sounds.fault⟩

end Rendering

namespace SoundEncoding
variable (encoding : SoundEncoding) (moment : Int → Int)

private theorem renderSound_retimed (tick duration : Int) (notes : List Note)
    (key : Option KeySignature) :
    (encoding.renderSound tick duration notes key).retimed moment =
      encoding.renderSound (moment tick) (moment (tick + duration) - moment tick) notes key := by
  have stop : moment tick + (moment (tick + duration) - moment tick) =
      moment (tick + duration) := by
    omega
  simp only [renderSound, Rendering.retimed_append, stop]
  congr 1
  · exact Rendering.retimed_join moment (fun _ => Rendering.retimed_several moment ..) notes
  · exact Rendering.retimed_join moment (fun _ => Rendering.retimed_several moment ..) notes

private theorem renderCue_retimed (cue : Cue) :
    encoding.renderCue (cue.retimed moment) = (encoding.renderCue cue).retimed moment := by
  cases cue with
  | tempo tick tempo => exact (Rendering.retimed_several moment ..).symm
  | sound tick duration notes key =>
    exact (encoding.renderSound_retimed moment tick duration notes key).symm
  | remark => rfl

/-- Rendering commutes with any change of times. -/
theorem render_retimed (cues : List Cue) :
    encoding.render (cues.map (Cue.retimed moment)) = (encoding.render cues).retimed moment := by
  induction cues with
  | nil => rfl
  | cons cue rest ih =>
    rw [List.map_cons, render_cons, render_cons, renderCue_retimed, ih, Rendering.retimed_append]

end SoundEncoding

/-- A change of times under which what lasts some units at one resolution lasts as many at the
other. -/
structure Retiming (resolution other : Int) where
  moment : Int → Int
  moment_add : ∀ tick units, moment (tick + ticksOfUnits units resolution) =
    moment tick + ticksOfUnits units other

namespace Retiming

def later (resolution delay : Int) : Retiming resolution resolution where
  moment := (· + delay)
  moment_add := by
    intro tick units
    omega

def scaled (factor : Int) : Retiming 96 (96 * factor) where
  moment := (factor * ·)
  moment_add := by
    intro tick units
    have single : ticksOfUnits units 96 = units := Int.mul_ediv_cancel_left units (by decide)
    rw [single, ticksOfUnits_whole, Int.mul_add]

variable {resolution other : Int} (retiming : Retiming resolution other) (score : Score)

theorem moment_ticks (tick : Int) (note : Note) :
    retiming.moment (tick + note.ticks score resolution) =
      retiming.moment tick + note.ticks score other := retiming.moment_add tick _

theorem moment_chordTicks (tick : Int) (chord : Chord) :
    retiming.moment (tick + chord.ticks score resolution) =
      retiming.moment tick + chord.ticks score other := by
  unfold Chord.ticks
  cases Chord.shortest? chord.withoutTieEndings with
  | none => simp
  | some note => exact retiming.moment_ticks score tick note

theorem sound_retimed {tick duration length : Int}
    (lasts : retiming.moment (tick + duration) = retiming.moment tick + length)
    (notes : List Note) (key : Option KeySignature) :
    (Cue.sound tick duration notes key).retimed retiming.moment =
      .sound (retiming.moment tick) length notes key := by
  simp only [Cue.retimed, lasts, add_sub_cancel_left]

theorem wait_retimed (head : Playhead) {duration length : Int}
    (lasts : retiming.moment (head.clock + duration) = retiming.moment head.clock + length) :
    (head.wait duration).retimed retiming.moment = (head.retimed retiming.moment).wait length := by
  simp only [Playhead.retimed, Playhead.wait, lasts]

end Retiming

namespace Playhead
variable {resolution other : Int} (retiming : Retiming resolution other) (score : Score)
  (head : Playhead)

/-- A playhead with what it has played, both at other times. -/
def retimedWith (moment : Int → Int) (played : Playhead × List Cue) : Playhead × List Cue :=
  (played.1.retimed moment, played.2.map (Cue.retimed moment))

private theorem playSingle_retimed (note : Note) :
    (head.retimed retiming.moment).playSingle score other note =
      retimedWith retiming.moment (head.playSingle score resolution note) := by
  have lasts := retiming.moment_ticks score head.clock note
  unfold playSingle
  split
  next =>
    simp only [retimedWith, List.map_cons, List.map_nil, retiming.sound_retimed lasts]
    rw [retiming.wait_retimed { head with running := carry head.running note } lasts]
    rfl
  next =>
    simp only [retimedWith, List.map_nil, retiming.wait_retimed head lasts]

private theorem playEach_retimed (notes : List Note) :
    (head.retimed retiming.moment).playEach score other notes =
      retimedWith retiming.moment (head.playEach score resolution notes) := by
  induction notes generalizing head with
  | nil => rfl
  | cons note rest ih =>
    have first := playSingle_retimed retiming score head note
    simp only [playEach, first, retimedWith, ih, List.map_append]

private theorem performItem_retimed (item : Item) :
    (head.retimed retiming.moment).performItem score other item =
      retimedWith retiming.moment (head.performItem score resolution item) := by
  cases item with
  | note single =>
    simp only [performItem, playItem, playNote]
    split
    next => rfl
    next => exact playEach_retimed retiming score head _
  | chord together =>
    have lasts := retiming.moment_chordTicks score head.clock together
    simp only [performItem, playItem, playChord, retimedWith, List.map_cons, List.map_nil,
      retiming.sound_retimed lasts]
    rw [retiming.wait_retimed
      { head with running := together.notes.foldl carry head.running } lasts]
    rfl
  | bar | key | tempo | absent => rfl

/-- From a playhead at another time on the same is heard at other times. -/
theorem perform_retimed (items : List Item) :
    (head.retimed retiming.moment).perform score other items =
      (head.perform score resolution items).map (Cue.retimed retiming.moment) := by
  induction items generalizing head with
  | nil => rfl
  | cons item rest ih =>
    have first := performItem_retimed retiming score head item
    simp only [perform, first, retimedWith, ih, List.map_append]

end Playhead

namespace Converter
variable {ε : Type} [Encodes ε]

/-- What a rendering becomes at a resolution: a track, or the error of its fault. -/
def outcome (resolution : Int) (rendering : Rendering) : Except ConversionError Track :=
  match rendering.fault with
  | some fault => .error (.ofFault fault)
  | none => .ok ⟨resolution, rendering.events⟩

private theorem outcome_congr {first second : Rendering} (sounds : first.SoundsLike second)
    (resolution : Int) : outcome resolution first = outcome resolution second := by
  unfold outcome
  rw [sounds.fault, sounds.events]

/-- The performance of a score after the program change. -/
def performance (converter : Converter ε) (instrument : Instrument) (score : Score) : Rendering :=
  converter.sounds.renderProgram 0 instrument ++ converter.sounds.render
    (({} : Playhead).perform score converter.resolution score.performed)

private theorem rendering_soundsLike (converter : Converter ε) (instrument : Instrument)
    (score : Score) :
    (converter.rendering instrument score).SoundsLike
      (converter.performance instrument score) := by
  rw [rendering_eq, performance, ← Score.heard_script]
  exact .append ⟨rfl, rfl⟩ (converter.sounds.render_heard _)

/-- The instrument is loaded, and then the performance decides. -/
theorem convert_result (converter : Converter ε) (score : Score) :
    (converter.convert score).result = converter.loadInstrument.bind fun loaded =>
      outcome converter.resolution (converter.performance loaded.1 score) := by
  cases loaded : converter.loadInstrument with
  | error fault => simp only [convert, loaded, Except.bind]
  | ok loading =>
    obtain ⟨instrument, records⟩ := loading
    have sounds := converter.rendering_soundsLike instrument score
    rw [Except.bind, ← outcome_congr sounds]
    unfold outcome
    split
    next fault failed => exact result_of_fault loaded failed
    next sound => exact result_of_sound loaded sound

/-- A conversion that succeeds returns its performance. -/
theorem performance_of_ok {converter : Converter ε} {score : Score} {track : Track}
    (converted : (converter.convert score).result = .ok track) :
    ∃ loaded, converter.loadInstrument = .ok loaded ∧
      (converter.performance loaded.1 score).fault = none ∧
      track = ⟨converter.resolution, (converter.performance loaded.1 score).events⟩ := by
  rw [convert_result] at converted
  obtain ⟨loaded, loading, played⟩ := except_bind_eq_ok.mp converted
  refine ⟨loaded, loading, ?_⟩
  unfold outcome at played
  split at played
  next => cases played
  next sound =>
    cases played
    exact ⟨sound, rfl⟩

end Converter

def Track.scaled (factor : Int) (track : Track) : Track where
  resolution := factor * track.resolution
  events := track.events.map (Event.retimed (factor * ·))

namespace Converter
variable {ε : Type} [Encodes ε]

def atResolution (converter : Converter ε) (resolution : Int) : Converter ε :=
  { converter with resolution }

private theorem performance_scaled (converter : Converter ε) (instrument : Instrument)
    (score : Score)
    (factor : Int) :
    (converter.atResolution (96 * factor)).performance instrument score =
      ((converter.atResolution 96).performance instrument score).retimed (factor * ·) := by
  have start : ({} : Playhead).retimed (factor * ·) = {} := by
    simp only [Playhead.retimed, Int.mul_zero]
  have heard := ({} : Playhead).perform_retimed (.scaled factor) score score.performed
  simp only [Retiming.scaled, start] at heard
  simp only [performance, atResolution, sounds, heard, SoundEncoding.render_retimed,
    Rendering.retimed_append,
    SoundEncoding.renderProgram, Rendering.retimed_several, Int.mul_zero]

private theorem outcome_scaled (rendering : Rendering) (factor : Int) :
    outcome (96 * factor) (rendering.retimed (factor * ·)) =
      (outcome 96 rendering).map (Track.scaled factor) := by
  unfold outcome
  cases sound : rendering.fault with
  | some fault => simp only [Rendering.retimed, sound, Except.map]
  | none => simp only [Rendering.retimed, sound, Except.map, Track.scaled, Int.mul_comm]

/-- At a multiple of 96 ticks a quarter note the events are those of 96 ticks, at the same multiple
of their ticks, and what goes wrong is the same. -/
theorem convert_scaled (converter : Converter ε) (score : Score) (factor : Int) :
    ((converter.atResolution (96 * factor)).convert score).result =
      ((converter.atResolution 96).convert score).result.map (Track.scaled factor) := by
  rw [convert_result, convert_result]
  change converter.loadInstrument.bind _ = (converter.loadInstrument.bind _).map _
  cases converter.loadInstrument with
  | error => rfl
  | ok loaded =>
    simp only [Except.bind, performance_scaled]
    exact outcome_scaled _ factor

end Converter

end ScorePlayback
