import Mathlib.Data.List.Forall2
import ScorePlayback.Midi.File
import ScorePlayback.Proofs.Rendered

/-! Notes released in two ways. The encodings differ in the message that ends a note and in nothing
else, and that message is read only for the note that it ends. So a score is converted with either
to the same events but for these messages, and both tracks are written to the same file. -/

namespace ScorePlayback

/-- The same event, or the end of a note at one tick: by a message of its own in the first event and
by a start with velocity zero in the second. -/
inductive Event.Matches : Event → Event → Prop
  | same {event : Event} (other : event.kind ≠ .noteOff) : Event.Matches event event
  | release {tick : Int} {channel : Channel} {note : DataByte} :
      Event.Matches { tick, kind := .noteOff, message := .noteOff channel note 0 }
        { tick, kind := .noteOff, message := .noteOn channel note 0 }

/-- Events that match pairwise are of the same kinds at the same ticks. -/
theorem Event.moments_eq_of_matches {first second : List Event}
    (alike : List.Forall₂ Event.Matches first second) :
    first.map (fun event => (event.tick, event.kind)) =
      second.map fun event => (event.tick, event.kind) := by
  induction alike with
  | nil => rfl
  | cons head _ ih =>
    rw [List.map_cons, List.map_cons, ih]
    cases head with
    | same => rfl
    | release => rfl

namespace Rendering

/-- The same events but for the releases, the same remarks, and the same fault if there is one. -/
structure Matches (first second : Rendering) : Prop where
  events : List.Forall₂ Event.Matches first.events second.events
  remarks : first.remarks = second.remarks
  fault : first.fault = second.fault

namespace Matches

theorem empty : Matches {} {} := ⟨.nil, rfl, rfl⟩

theorem append {first first' second second' : Rendering} (start : first.Matches first')
    (rest : second.Matches second') : (first ++ second).Matches (first' ++ second') := by
  cases failed : first.fault with
  | some fault =>
    rw [append_eq_of_fault failed, append_eq_of_fault (start.fault.symm.trans failed)]
    exact start
  | none =>
    rw [append_eq_of_none failed, append_eq_of_none (start.fault.symm.trans failed)]
    constructor
    · exact List.rel_append start.events rest.events
    · exact congrArg₂ _ start.remarks rest.remarks
    · exact rest.fault

theorem join {α : Type} {parts : List α} {render render' : α → Rendering}
    (each : ∀ part, (render part).Matches (render' part)) :
    (Rendering.join (parts.map render)).Matches (Rendering.join (parts.map render')) := by
  induction parts with
  | nil => exact empty
  | cons part rest ih => exact (each part).append ih

/-- What releases no note matches itself. -/
theorem single {tick : Int} {kind : EventKind} (other : kind ≠ .noteOff)
    (message : Except EventFault Message) :
    (Rendering.single tick kind message).Matches (Rendering.single tick kind message) := by
  cases message with
  | error => exact ⟨.nil, rfl, rfl⟩
  | ok => exact ⟨.cons (.same other) .nil, rfl, rfl⟩

end Matches

end Rendering

namespace Encoding
variable (velocity channel : FieldValue)

/-- Both encodings refuse to end a note for the same reason, or both end it. -/
private theorem noteOff_cases (note : Note) (key : Option KeySignature) :
    (∃ fault, noteOff ⟨.standard, velocity, channel⟩ note key = .error fault ∧
      noteOff ⟨.zeroVelocity, velocity, channel⟩ note key = .error fault) ∨
    (∃ sent data, noteOff ⟨.standard, velocity, channel⟩ note key = .ok (.noteOff sent data 0) ∧
      noteOff ⟨.zeroVelocity, velocity, channel⟩ note key = .ok (.noteOn sent data 0)) := by
  simp only [noteOff, Message.ofNoteOff, Message.ofNoteOn]
  cases channel.channel with
  | error fault => exact .inl ⟨fault, rfl, rfl⟩
  | ok sent =>
    cases FieldValue.data (some (note.number key)) with
    | error fault => exact .inl ⟨fault, rfl, rfl⟩
    | ok data => exact .inr ⟨sent, data, rfl, rfl⟩

private theorem renderNoteOff_matches (tick : Int) (key : Option KeySignature) (note : Note) :
    ((sounds ⟨.standard, velocity, channel⟩).renderNoteOff tick key note).Matches
      ((sounds ⟨.zeroVelocity, velocity, channel⟩).renderNoteOff tick key note) := by
  simp only [renderNoteOff_sounds]
  obtain ⟨fault, first, second⟩ | ⟨sent, data, first, second⟩ :=
    noteOff_cases velocity channel note key
  · rw [first, second]
    exact ⟨.nil, rfl, rfl⟩
  · rw [first, second]
    exact ⟨.cons .release .nil, rfl, rfl⟩

private theorem renderCue_matches (cue : Cue) :
    ((sounds ⟨.standard, velocity, channel⟩).renderCue cue).Matches
      ((sounds ⟨.zeroVelocity, velocity, channel⟩).renderCue cue) := by
  cases cue with
  | tempo tick tempo => exact Rendering.Matches.single (show EventKind.tempo ≠ .noteOff by decide) _
  | remark => exact ⟨.nil, rfl, rfl⟩
  | sound tick duration notes key =>
    apply Rendering.Matches.append
    · apply Rendering.Matches.join
      intro note
      exact Rendering.Matches.single (show EventKind.noteOn ≠ .noteOff by decide) _
    · apply Rendering.Matches.join
      intro note
      exact renderNoteOff_matches velocity channel (tick + duration) key note

theorem record_matches (instrument : Instrument) (score : Score) (resolution : Int) :
    ((sounds ⟨.standard, velocity, channel⟩).record instrument score resolution).Matches
      ((sounds ⟨.zeroVelocity, velocity, channel⟩).record instrument score resolution) := by
  rw [SoundEncoding.record_eq, SoundEncoding.record_eq]
  apply Rendering.Matches.append
  · exact Rendering.Matches.single (show EventKind.programChange ≠ .noteOff by decide) _
  · exact Rendering.Matches.join (renderCue_matches velocity channel)

end Encoding

namespace Sheet

/-- An event is gathered by its kind, and of a release only the note counts. -/
private theorem step_congr {first second : Event} (alike : first.Matches second)
    (pending : List Start) :
    step pending first = step pending second := by
  cases alike with
  | same => rfl
  | release => rfl

private theorem ofEvents_congr {first second : List Event}
    (alike : List.Forall₂ Event.Matches first second) (pending : List Start) :
    ofEvents pending first = ofEvents pending second := by
  induction alike generalizing pending with
  | nil => rfl
  | cons head _ ih => simp only [ofEvents, step_congr head, ih]

end Sheet

/-- Tracks of one resolution that differ in their releases only are written to the same file. -/
private theorem MidiFile.ofTrack_congr {first second : Track}
    (resolution : first.resolution = second.resolution)
    (alike : List.Forall₂ Event.Matches first.events second.events) (name : LooseText) :
    ofTrack name first = ofTrack name second := by
  simp only [ofTrack, resolution, Sheet.ofEvents_congr alike]

/-- With either encoding a score is converted to the same error, or to tracks with the same events at
the same ticks. These differ in the type of the messages that end notes, and they are written to one
and the same file or are refused for the same reason. -/
theorem Converter.convert_releases (converter : Converter) (velocity channel : FieldValue)
    (score : Score) (name : LooseText) :
    let plain : Converter := { converter with encoding := ⟨.standard, velocity, channel⟩ }
    let silent : Converter := { converter with encoding := ⟨.zeroVelocity, velocity, channel⟩ }
    (∃ error, (plain.convert score).result = .error error ∧
      (silent.convert score).result = .error error) ∨
    (∃ first second, (plain.convert score).result = .ok first ∧
      (silent.convert score).result = .ok second ∧
      first.events.map (fun event => (event.tick, event.kind)) =
        second.events.map (fun event => (event.tick, event.kind)) ∧
      List.Forall₂ Event.Matches first.events second.events ∧
      MidiFile.ofTrack name first = MidiFile.ofTrack name second) := by
  intro plain silent
  cases loading : plain.loadInstrument with
  | error error =>
    have silentLoading : silent.loadInstrument = .error error := loading
    refine .inl ⟨error, ?_, ?_⟩
    · simp only [convert, loading]
    · simp only [convert, silentLoading]
  | ok loaded =>
    obtain ⟨instrument, records⟩ := loaded
    have silentLoading : silent.loadInstrument = .ok (instrument, records) := loading
    have recorded : (plain.rendering instrument score).Matches (silent.rendering instrument score) :=
      Encoding.record_matches velocity channel instrument score converter.resolution
    cases failed : (plain.rendering instrument score).fault with
    | some fault =>
      have silentFailed := recorded.fault.symm.trans failed
      exact .inl ⟨_, result_of_fault loading failed, result_of_fault silentLoading silentFailed⟩
    | none =>
      have silentSound := recorded.fault.symm.trans failed
      refine .inr ⟨_, _, result_of_sound loading failed, result_of_sound silentLoading silentSound,
        Event.moments_eq_of_matches recorded.events, recorded.events, ?_⟩
      apply MidiFile.ofTrack_congr
      · rfl
      · exact recorded.events

end ScorePlayback
