import Mathlib.Data.List.Forall2
import ScorePlayback.Proofs.NoteNumbers

/-! Scores some octaves higher or lower. An octave that is written and one that is added when a note
sounds count alike, because a key alters a letter in all octaves. Nothing but the note numbers hears
of it. -/

namespace ScorePlayback

/-- Octaves added to those that every note is written in, and to those that are added when it
sounds. -/
structure OctaveShift where
  written : Int := 0
  sounding : Int := 0

def OctaveShift.semitones (shift : OctaveShift) : Int := 12 * (shift.written + shift.sounding)

namespace Note
variable (shift : OctaveShift)

mutual

/-- A note and all its grace notes, and theirs. -/
def shifted (shift : OctaveShift) : Note → Note
  | ⟨id, letter, octave, accidental, duration, isRest, transposition, begins, ends, tied, grace⟩ =>
    ⟨id, letter, octave + shift.written, accidental, duration, isRest,
      transposition + shift.sounding, begins, ends, tied, allShifted shift grace⟩

def allShifted (shift : OctaveShift) : List Note → List Note
  | [] => []
  | note :: rest => note.shifted shift :: allShifted shift rest

end

private theorem allShifted_eq_map (notes : List Note) :
    allShifted shift notes = notes.map (shifted shift) := by
  induction notes with
  | nil => rfl
  | cons note rest ih => rw [allShifted, ih, List.map_cons]

theorem shifted_eq (note : Note) :
    note.shifted shift = { note with
      octave := note.octave + shift.written
      transposition := note.transposition + shift.sounding
      grace := note.grace.map (shifted shift) } := by
  cases note
  rw [shifted, allShifted_eq_map]

variable (note : Note)

@[simp] theorem shifted_id : (note.shifted shift).id = note.id := by rw [shifted_eq]

@[simp] theorem shifted_letter : (note.shifted shift).letter = note.letter := by rw [shifted_eq]

@[simp] theorem shifted_accidental : (note.shifted shift).accidental = note.accidental := by
  rw [shifted_eq]

@[simp] theorem shifted_duration : (note.shifted shift).duration = note.duration := by
  rw [shifted_eq]

@[simp] theorem shifted_beginsTie : (note.shifted shift).beginsTie = note.beginsTie := by
  rw [shifted_eq]

@[simp] theorem shifted_endsTie : (note.shifted shift).endsTie = note.endsTie := by
  rw [shifted_eq]

@[simp] theorem shifted_tiedTo : (note.shifted shift).tiedTo = note.tiedTo := by rw [shifted_eq]

@[simp] theorem shifted_grace :
    (note.shifted shift).grace = note.grace.map (shifted shift) := by rw [shifted_eq]

@[simp] theorem shifted_sounds : (note.shifted shift).sounds = note.sounds := by
  rw [shifted_eq]
  rfl

@[simp] theorem shifted_position : (note.shifted shift).position = note.position := by
  rw [position_eq, position_eq, shifted_letter]

/-- Whichever way a note is shifted, it sounds higher by the same number of semitones. -/
theorem number_shifted (key : Option KeySignature) :
    (note.shifted shift).number key = note.number key + shift.semitones := by
  have alteration : (note.shifted shift).alteration key = note.alteration key := by
    simp only [Note.alteration, shifted_accidental, shifted_position]
  rw [number, number, alteration, shifted_eq, strictHeight, strictHeight, OctaveShift.semitones]
  dsimp only
  omega

@[simp] theorem carry_shifted (key : KeySignature) :
    key.carry (note.shifted shift) = key.carry note := by
  simp only [KeySignature.carry, shifted_accidental, shifted_position]

end Note

theorem carry_shifted (shift : OctaveShift) (key : Option KeySignature) (note : Note) :
    carry key (note.shifted shift) = carry key note := by
  simp only [carry, Note.carry_shifted]

def Chord.shifted (shift : OctaveShift) (chord : Chord) : Chord where
  notes := chord.notes.map (Note.shifted shift)

def Item.shifted (shift : OctaveShift) : Item → Item
  | .note single => .note (single.shifted shift)
  | .chord together => .chord (together.shifted shift)
  | item => item

def Score.shifted (shift : OctaveShift) (score : Score) : Score where
  items := score.items.map (Item.shifted shift)

def Visit.shifted (shift : OctaveShift) (visit : Visit) : Visit :=
  { visit with item := visit.item.shifted shift }

def Cue.shifted (shift : OctaveShift) : Cue → Cue
  | .sound tick duration notes key => .sound tick duration (notes.map (Note.shifted shift)) key
  | cue => cue

section Lengths
variable (shift : OctaveShift) (score : Score) (resolution : Int)

private theorem Score.find?_shifted (id : Nat) :
    (score.shifted shift).find? id = (score.find? id).map (Note.shifted shift) := by
  have each (item : Item) : (item.shifted shift).notes.find? (·.id == id) =
      (item.notes.find? (·.id == id)).map (Note.shifted shift) := by
    have same : ((·.id == id) ∘ Note.shifted shift) = (·.id == id) := by
      funext note
      simp
    cases item with
    | note single => simp [Item.shifted, Item.notes]
    | chord together =>
      rw [Item.shifted, Item.notes, Chord.shifted, List.find?_map, same]
      rfl
    | bar | key | tempo | absent => rfl
  obtain ⟨items⟩ := score
  simp only [find?, shifted]
  induction items with
  | nil => rfl
  | cons item rest ih =>
    rw [List.map_cons, List.findSome?_cons, List.findSome?_cons, each, ih]
    cases item.notes.find? (·.id == id) <;> rfl

theorem Note.ticks_shifted (note : Note) :
    (note.shifted shift).ticks (score.shifted shift) resolution = note.ticks score resolution := by
  have partner : (note.shifted shift).partnerUnits (score.shifted shift) =
      note.partnerUnits score := by
    simp only [partnerUnits, shifted_beginsTie, shifted_tiedTo]
    cases note.tiedTo with
    | none => rfl
    | some id =>
      simp only [Option.bind_some, Score.find?_shifted, Option.map_map]
      cases score.find? id <;> simp
  rw [ticks, ticks, partner, shifted_duration]

private theorem Chord.shortest?_shifted (notes : List Note) :
    shortest? (notes.map (Note.shifted shift)) = (shortest? notes).map (Note.shifted shift) := by
  induction notes with
  | nil => rfl
  | cons note rest ih =>
    rw [List.map_cons, shortest?, shortest?, ih]
    cases shortest? rest with
    | none => rfl
    | some other =>
      simp only [Option.map_some, Note.shifted_duration]
      split <;> rfl

theorem Chord.ticks_shifted (chord : Chord) :
    (chord.shifted shift).ticks (score.shifted shift) resolution =
      chord.ticks score resolution := by
  have kept : (chord.shifted shift).withoutTieEndings =
      chord.withoutTieEndings.map (Note.shifted shift) := by
    simp only [withoutTieEndings, shifted, List.filter_map, Function.comp_def, Note.shifted_endsTie]
  rw [ticks, ticks, kept, shortest?_shifted]
  cases shortest? chord.withoutTieEndings with
  | none => rfl
  | some note => exact note.ticks_shifted shift score resolution

end Lengths

namespace Playhead
variable (shift : OctaveShift) (score : Score) (resolution : Int) (head : Playhead)

/-- A playhead with what it has played, of which the notes are shifted. -/
def shiftedWith (played : Playhead × List Cue) : Playhead × List Cue :=
  (played.1, played.2.map (Cue.shifted shift))

private theorem playSingle_shifted (note : Note) :
    head.playSingle (score.shifted shift) resolution (note.shifted shift) =
      shiftedWith shift (head.playSingle score resolution note) := by
  simp only [playSingle, Note.ticks_shifted, Note.shifted_sounds, carry_shifted]
  split <;> rfl

private theorem playEach_shifted (notes : List Note) :
    head.playEach (score.shifted shift) resolution (notes.map (Note.shifted shift)) =
      shiftedWith shift (head.playEach score resolution notes) := by
  induction notes generalizing head with
  | nil => rfl
  | cons note rest ih =>
    simp only [List.map_cons, playEach, playSingle_shifted, shiftedWith, ih, List.map_append]

private theorem foldl_carry_shifted (key : Option KeySignature) (notes : List Note) :
    (notes.map (Note.shifted shift)).foldl carry key = notes.foldl carry key := by
  simp only [List.foldl_map, carry_shifted]

private theorem playItem_shifted (item : Item) :
    head.playItem (score.shifted shift) resolution (item.shifted shift) =
      shiftedWith shift (head.playItem score resolution item) := by
  cases item with
  | note single =>
    have each := playEach_shifted shift score resolution head (single.grace ++ [single])
    rw [List.map_append, List.map_singleton, ← Note.shifted_grace] at each
    simp only [Item.shifted, playItem, playNote, Note.shifted_endsTie]
    split
    next => rfl
    next => exact each
  | chord together =>
    have sounding : (together.notes.map (Note.shifted shift)).filter Note.sounds =
        (together.notes.filter Note.sounds).map (Note.shifted shift) := by
      simp only [List.filter_map, Function.comp_def, Note.shifted_sounds]
    simp only [Item.shifted, playItem, playChord, Chord.ticks_shifted]
    simp only [Chord.shifted, sounding, foldl_carry_shifted]
    rfl
  | bar | key | tempo | absent => rfl

private theorem map_remarks (repeats : RepeatState) (index : Nat) (tick : Int) (bar : Bar) :
    (remarks repeats index tick bar).map (Cue.shifted shift) =
      remarks repeats index tick bar := by
  unfold remarks
  split
  next => rfl
  next =>
    dsimp only
    split <;> rfl

private theorem visit_shifted (visit : Visit) :
    head.visit (score.shifted shift) resolution (visit.shifted shift) =
      shiftedWith shift (head.visit score resolution visit) := by
  obtain ⟨index, item, repeats⟩ := visit
  have played := head.playItem_shifted shift score resolution item
  cases item with
  | bar bar => simp only [Visit.shifted, Item.shifted, visit, shiftedWith, map_remarks]
  | note | chord | key | tempo | absent =>
    obtain ⟨opening, pass, skipping⟩ := repeats
    cases skipping with
    | true => rfl
    | false => exact played

private theorem cues_shifted (visits : List Visit) :
    head.cues (score.shifted shift) resolution (visits.map (Visit.shifted shift)) =
      (head.cues score resolution visits).map (Cue.shifted shift) := by
  induction visits generalizing head with
  | nil => rfl
  | cons visit rest ih =>
    simp only [List.map_cons, cues, visit_shifted, shiftedWith, ih, List.map_append]

end Playhead

namespace Score
variable (shift : OctaveShift) (score : Score)

/-- The shifted score is visited in the same way. -/
private theorem routeFrom_shifted (cursor : Cursor) :
    (score.shifted shift).routeFrom cursor =
      (score.routeFrom cursor).map (Visit.shifted shift) := by
  fun_induction Score.routeFrom score cursor with
  | case1 cursor past =>
    have ended : (score.shifted shift).items[cursor.index]? = none := by
      rw [shifted, List.getElem?_map, past, Option.map_none]
    rw [routeFrom_of_none ended]
    rfl
  | case2 cursor item here ih =>
    have there : (score.shifted shift).items[cursor.index]? = some (item.shifted shift) := by
      rw [shifted, List.getElem?_map, here, Option.map_some]
    have next : cursor.next (item.shifted shift) = cursor.next item := by cases item <;> rfl
    rw [routeFrom_of_some there, next, ih]
    rfl

theorem script_shifted (resolution : Int) :
    (score.shifted shift).script resolution =
      (score.script resolution).map (Cue.shifted shift) := by
  rw [script, route, routeFrom_shifted]
  exact Playhead.cues_shifted ..

end Score

section Sameness
variable {shift other : OctaveShift} (same : shift.semitones = other.semitones)
include same

private theorem Encoding.renderCue_shifted (encoding : Encoding) (cue : Cue) :
    encoding.sounds.renderCue (cue.shifted shift) =
      encoding.sounds.renderCue (cue.shifted other) := by
  cases cue with
  | tempo | remark => rfl
  | sound tick duration notes key =>
    simp only [Cue.shifted, SoundEncoding.renderCue, SoundEncoding.renderSound, List.map_map,
      Function.comp_def, renderNoteOn_sounds, renderNoteOff_sounds, noteOn, noteOff,
      Note.number_shifted, same]

/-- Two shifts by as many semitones are converted alike, to the last word of the log. -/
theorem Converter.convert_shifted (converter : Converter) (score : Score) :
    converter.convert (score.shifted shift) = converter.convert (score.shifted other) := by
  have rendering (instrument : Instrument) :
      converter.rendering instrument (score.shifted shift) =
        converter.rendering instrument (score.shifted other) := by
    simp only [rendering_eq, sounds_eq, Score.script_shifted, SoundEncoding.render, List.map_map,
      Function.comp_def, converter.encoding.renderCue_shifted same]
  have done : doneRecord (score.shifted shift) = doneRecord (score.shifted other) := by
    funext track instrument
    simp only [doneRecord, Score.shifted, List.length_map]
  simp only [convert, rendering, done]

end Sameness

/-- The same message for a note some semitones higher. -/
inductive Message.RaisedBy (distance : Int) : Message → Message → Prop
  | noteOn {channel : Channel} {note other velocity : DataByte}
      (higher : (other.val : Int) = note.val + distance) :
      RaisedBy distance (.noteOn channel note velocity) (.noteOn channel other velocity)
  | noteOff {channel : Channel} {note other velocity : DataByte}
      (higher : (other.val : Int) = note.val + distance) :
      RaisedBy distance (.noteOff channel note velocity) (.noteOff channel other velocity)

/-- The same event but for the note that it starts or ends. -/
inductive Event.RaisedBy (distance : Int) : Event → Event → Prop
  | same {event : Event} (other : event.isStroke = false) : RaisedBy distance event event
  | stroke {event : Event} {message : Message} (stroke : event.isStroke = true)
      (raised : event.message.RaisedBy distance message) :
      RaisedBy distance event { event with message }

/-- What the messages of a note are built from. -/
def Message.ofFields (build : Channel → DataByte → DataByte → Message)
    (channel note velocity : FieldValue) : Except MessageFault Message := do
  return build (← channel.channel) (← note.data) (← velocity.data)

theorem Message.raisedBy_of_fields (build : Channel → DataByte → DataByte → Message)
    {channel velocity : FieldValue} {number distance : Int} {first second : Message}
    (raises : ∀ channel note other velocity, (other.val : Int) = note.val + distance →
      (build channel note velocity).RaisedBy distance (build channel other velocity))
    (low : ofFields build channel (some number) velocity = .ok first)
    (high : ofFields build channel (some (number + distance)) velocity = .ok second) :
    first.RaisedBy distance second := by
  obtain ⟨sent, channelField, low⟩ := except_bind_eq_ok.mp low
  obtain ⟨note, data, low⟩ := except_bind_eq_ok.mp low
  obtain ⟨force, velocityField, low⟩ := except_bind_eq_ok.mp low
  obtain ⟨sentHigh, channelHigh, high⟩ := except_bind_eq_ok.mp high
  obtain ⟨other, dataHigh, high⟩ := except_bind_eq_ok.mp high
  obtain ⟨forceHigh, velocityHigh, high⟩ := except_bind_eq_ok.mp high
  cases channelField.symm.trans channelHigh
  cases velocityField.symm.trans velocityHigh
  cases low
  cases high
  have lower := Option.some.inj (FieldValue.bounded_eq_ok.mp data)
  have higher := Option.some.inj (FieldValue.bounded_eq_ok.mp dataHigh)
  exact raises _ _ _ _ (by rw [← lower, ← higher])

namespace Rendering

/-- Unless one of the renderings ends in a fault, the events of the second are higher. -/
def RaisedBy (distance : Int) (first second : Rendering) : Prop :=
  first.fault = none → second.fault = none →
    List.Forall₂ (Event.RaisedBy distance) first.events second.events

namespace RaisedBy
variable {distance : Int} {first second : Rendering}

theorem append {start later : Rendering} (begun : start.RaisedBy distance later)
    (rest : first.RaisedBy distance second) :
    (start ++ first).RaisedBy distance (later ++ second) := by
  intro sound soundLater
  obtain ⟨startSound, firstSound, events⟩ := append_eq_none sound
  obtain ⟨laterSound, secondSound, laterEvents⟩ := append_eq_none soundLater
  rw [events, laterEvents]
  exact List.rel_append (begun startSound laterSound) (rest firstSound secondSound)

theorem join {α : Type} {parts : List α} {render later : α → Rendering}
    (each : ∀ part, (render part).RaisedBy distance (later part)) :
    (Rendering.join (parts.map render)).RaisedBy distance (Rendering.join (parts.map later)) := by
  induction parts with
  | nil => exact fun _ _ => .nil
  | cons part rest ih => exact (each part).append ih

theorem unchanged {tick : Int} {kind : EventKind} (other : kind ≠ .noteOn ∧ kind ≠ .noteOff)
    (message : Except EventFault Message) :
    (single tick kind message).RaisedBy distance (single tick kind message) := by
  intro sound _
  obtain ⟨built, -, events⟩ := single_eq_none sound
  rw [events]
  exact .cons (.same (by simp [Event.isStroke, other])) .nil

theorem stroke {tick : Int} {kind : EventKind} (strikes : kind = .noteOn ∨ kind = .noteOff)
    {low high : Except MessageFault Message}
    (raised : ∀ message other, low = .ok message → high = .ok other →
      message.RaisedBy distance other) :
    (single tick kind (low.mapError .message)).RaisedBy distance
      (single tick kind (high.mapError .message)) := by
  intro sound soundHigh
  obtain ⟨message, built, events⟩ := single_eq_none sound
  obtain ⟨other, builtHigh, eventsHigh⟩ := single_eq_none soundHigh
  have higher := raised message other (except_mapError_eq_ok.mp built)
    (except_mapError_eq_ok.mp builtHigh)
  have event : Event.RaisedBy distance ⟨tick, kind, message, .whole 0⟩
      ⟨tick, kind, other, .whole 0⟩ :=
    .stroke (by simp [Event.isStroke, strikes]) higher
  rw [events, eventsHigh]
  exact .cons event .nil

end RaisedBy

end Rendering

namespace Encoding
variable (encoding : Encoding) (shift : OctaveShift)

private theorem noteOn_raised (note : Note) (key : Option KeySignature) (message other : Message)
    (low : encoding.noteOn note key = .ok message)
    (high : encoding.noteOn (note.shifted shift) key = .ok other) :
    message.RaisedBy shift.semitones other := by
  rw [noteOn, Note.number_shifted] at high
  exact Message.raisedBy_of_fields .noteOn (fun _ _ _ _ => .noteOn) low high

private theorem noteOff_raised (note : Note) (key : Option KeySignature) (message other : Message)
    (low : encoding.noteOff note key = .ok message)
    (high : encoding.noteOff (note.shifted shift) key = .ok other) :
    message.RaisedBy shift.semitones other := by
  unfold noteOff at low high
  rw [Note.number_shifted] at high
  cases kind : encoding.kind with
  | standard =>
    rw [kind] at low high
    exact Message.raisedBy_of_fields .noteOff (fun _ _ _ _ => .noteOff) low high
  | zeroVelocity =>
    rw [kind] at low high
    exact Message.raisedBy_of_fields .noteOn (fun _ _ _ _ => .noteOn) low high

private theorem renderCue_raised (cue : Cue) :
    (encoding.sounds.renderCue cue).RaisedBy shift.semitones
      (encoding.sounds.renderCue (cue.shifted shift)) := by
  cases cue with
  | tempo tick marked =>
    exact .unchanged (show EventKind.tempo ≠ .noteOn ∧ EventKind.tempo ≠ .noteOff by decide) _
  | remark => exact fun _ _ => .nil
  | sound tick duration notes key =>
    simp only [Cue.shifted, SoundEncoding.renderCue, SoundEncoding.renderSound, List.map_map]
    refine .append (.join fun note => ?_) (.join fun note => ?_)
    · exact .stroke (.inl rfl) (encoding.noteOn_raised shift note key)
    · exact .stroke (.inr rfl) (encoding.noteOff_raised shift note key)

private theorem render_raised (cues : List Cue) :
    (encoding.sounds.render cues).RaisedBy shift.semitones
      (encoding.sounds.render (cues.map (Cue.shifted shift))) := by
  rw [SoundEncoding.render, SoundEncoding.render, List.map_map]
  exact .join (encoding.renderCue_raised shift)

end Encoding

namespace Converter

private theorem rendering_raised (converter : Converter) (instrument : Instrument) (score : Score)
    (shift : OctaveShift) :
    (converter.rendering instrument score).RaisedBy shift.semitones
      (converter.rendering instrument (score.shifted shift)) := by
  rw [rendering_eq, rendering_eq, Score.script_shifted]
  refine .append ?_ (converter.encoding.render_raised shift _)
  exact .unchanged (show EventKind.programChange ≠ .noteOn ∧ _ by decide) _

end Converter

def Score.raised (octaves : Int) (score : Score) : Score :=
  score.shifted { written := octaves }

def Score.transposed (octaves : Int) (score : Score) : Score :=
  score.shifted { sounding := octaves }

/-- Octaves that are written and octaves that are added when a note sounds are converted alike, and
they raise the notes of a track and change nothing else on it. -/
theorem Converter.convert_octaves (converter : Converter) (score : Score) (octaves : Int) :
    converter.convert (score.raised octaves) = converter.convert (score.transposed octaves) ∧
    ∀ first second, (converter.convert score).result = .ok first →
      (converter.convert (score.raised octaves)).result = .ok second →
      second.resolution = first.resolution ∧
        List.Forall₂ (Event.RaisedBy (12 * octaves)) first.events second.events := by
  have same : OctaveShift.semitones { written := octaves } =
      OctaveShift.semitones { sounding := octaves } := by
    simp only [OctaveShift.semitones, Int.add_zero, Int.zero_add]
  refine ⟨converter.convert_shifted same score, fun first second low high => ?_⟩
  obtain ⟨instrument, records, loaded, sound, rfl⟩ := convert_eq_ok low
  obtain ⟨again, others, loadedAgain, soundHigh, rfl⟩ := convert_eq_ok high
  cases loaded.symm.trans loadedAgain
  have raised := converter.rendering_raised instrument score { written := octaves } sound soundHigh
  rw [OctaveShift.semitones, Int.add_zero] at raised
  exact ⟨rfl, raised⟩

/-- The F's of a graced chord in G major, of which the grace note makes the later ones natural. -/
def Score.gracedChord : Score where
  items := [.key (.alter .sharp [.f]),
    .note { id := 0, letter := .f,
            grace := [{ id := 1, letter := .f, accidental := some .natural }] },
    .chord ⟨[{ id := 2, letter := .f }, { id := 3 }]⟩]

/-- Two octaves down, the same accidental is carried to the same notes. -/
theorem Converter.convert_octaves_gracedChord :
    ∃ first second : Track, (Converter.usual.convert .gracedChord).result = .ok first ∧
      (Converter.usual.convert (Score.gracedChord.raised (-2))).result = .ok second ∧
      List.Forall₂ (Event.RaisedBy (-24)) first.events second.events ∧
      second.events.filterMap (fun event => event.message.note?) =
        [41, 41, 41, 41, 41, 36, 41, 36] := by
  have low : (Converter.usual.convert .gracedChord).result.isOk = true := by decide +kernel
  have high : (Converter.usual.convert (Score.gracedChord.raised (-2))).result.isOk = true := by
    decide +kernel
  have first := except_eq_ok_getD low ⟨0, []⟩
  have second := except_eq_ok_getD high ⟨0, []⟩
  obtain ⟨-, raised⟩ := Converter.usual.convert_octaves .gracedChord (-2)
  exact ⟨_, _, first, second, (raised _ _ first second).2, by decide +kernel⟩

end ScorePlayback
