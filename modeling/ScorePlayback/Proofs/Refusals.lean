import ScorePlayback.Proofs.DeclaredErrors
import ScorePlayback.Proofs.Writable

/-! When a conversion refuses a score. Every message is checked by itself, so the first of them in
the order of playing whose fields are out of range decides the error; what is not heard is not
checked. -/

namespace ScorePlayback

def IsData (number : Int) : Prop := 0 ≤ number ∧ number ≤ 127

def IsChannel (number : Int) : Prop := 0 ≤ number ∧ number ≤ 15

instance (number : Int) : Decidable (IsData number) := inferInstanceAs (Decidable (_ ∧ _))

instance (number : Int) : Decidable (IsChannel number) := inferInstanceAs (Decidable (_ ∧ _))

/-- What a message is refused for, by its channel and its other fields. The channel comes first. -/
def refusal? (channel : Int) (data : List Int) : Option MessageFault :=
  if IsChannel channel then
    if ∀ number ∈ data, IsData number then none else some .dataRange
  else some .channelRange

theorem refusal?_eq_none {channel : Int} {data : List Int} :
    refusal? channel data = none ↔ IsChannel channel ∧ ∀ number ∈ data, IsData number := by
  unfold refusal?
  split
  next inside =>
    split
    next right => exact ⟨fun _ => ⟨inside, right⟩, fun _ => rfl⟩
    next wrong => exact ⟨nofun, fun fits => absurd fits.2 wrong⟩
  next outside => exact ⟨nofun, fun fits => absurd fits.1 outside⟩

namespace MessageFault

def of? : Except MessageFault α → Option MessageFault
  | .ok _ => none
  | .error fault => some fault

theorem of?_bind {first : Except MessageFault α} {next : α → Except MessageFault β}
    {rest : Option MessageFault} (each : ∀ value, of? (next value) = rest) :
    of? (first >>= next) = (of? first).or rest := by
  cases first with
  | ok value => exact each value
  | error => rfl

theorem of?_bounded {notWhole range : MessageFault} (bound : Nat) (number : Int) :
    of? (FieldValue.bounded notWhole range bound (some number)) =
      if 0 ≤ number ∧ number < bound then none else some range := by
  match number with
  | .negSucc _ => rfl
  | .ofNat natural =>
    simp only [FieldValue.bounded, Int.ofNat_eq_natCast, Int.natCast_nonneg, Nat.cast_lt, true_and]
    split <;> rfl

theorem of?_channel (number : Int) :
    of? (FieldValue.channel (some number)) =
      if IsChannel number then none else some .channelRange := by
  rw [FieldValue.channel, of?_bounded]
  exact if_congr (and_congr_right fun _ => @Int.lt_add_one_iff number 15) rfl rfl

theorem of?_data (number : Int) :
    of? (FieldValue.data (some number)) = if IsData number then none else some .dataRange := by
  rw [FieldValue.data, of?_bounded]
  exact if_congr (and_congr_right fun _ => @Int.lt_add_one_iff number 127) rfl rfl

theorem of?_note (build : Channel → DataByte → DataByte → Message) (channel note velocity : Int) :
    of? (do
      return build (← FieldValue.channel (some channel)) (← FieldValue.data (some note))
        (← FieldValue.data (some velocity))) = refusal? channel [note, velocity] := by
  have struck : ∀ channel note, of? (do
      return build channel note (← FieldValue.data (some velocity))) =
        (of? (FieldValue.data (some velocity))).or none := fun _ _ => of?_bind fun _ => rfl
  rw [of?_bind fun channel => of?_bind fun note => struck channel note, of?_channel, of?_data,
    of?_data, refusal?]
  by_cases onChannel : IsChannel channel <;> by_cases first : IsData note <;>
    by_cases second : IsData velocity <;> simp [onChannel, first, second]

private theorem of?_program (channel program : Int) :
    of? (Message.ofProgramChange (some channel) (some program)) = refusal? channel [program] := by
  have loaded : ∀ channel, of? (do
      return Message.programChange channel (← FieldValue.data (some program))) =
        (of? (FieldValue.data (some program))).or none := fun _ => of?_bind fun _ => rfl
  rw [Message.ofProgramChange, of?_bind loaded, of?_channel, of?_data, refusal?]
  by_cases onChannel : IsChannel channel <;> by_cases first : IsData program <;>
    simp [onChannel, first]

end MessageFault

/-- What a stroke gives to the fields of its message. An end has no velocity. -/
def signData (velocity : Int) (sign : EventKind × Option Int) : List Int :=
  [sign.2.getD 0, if sign.1 = .noteOn then velocity else 0]

def signFault? (channel velocity : Int) (sign : EventKind × Option Int) : Option EventFault :=
  (refusal? channel (signData velocity sign)).map .message

theorem Rendering.fault_single (tick : Int) (kind : EventKind)
    (message : Except MessageFault Message) :
    (single tick kind (message.mapError .message)).fault =
      (MessageFault.of? message).map .message := by
  cases message <;> rfl

namespace Encoding

theorem fault_renderTempo (encoding : Encoding) (tick : Int) {marked : Tempo} {value : TempoValue}
    (computed : marked.microsecondsPerQuarter = .ok value.val) :
    (encoding.sounds.renderTempo tick marked).fault = none := by
  have built : encoding.tempo marked = .ok (.setTempo value) := by
    rw [tempo, computed]
    simp only [Except.mapError, bind, Except.bind, Message.ofTempo,
      FieldValue.bounded_eq_ok.mpr rfl]
    rfl
  rw [renderTempo_sounds, built]
  rfl

variable {encoding : Encoding} {channel velocity : Int}
  (onChannel : encoding.channel = some channel)

include onChannel in
theorem fault_renderProgram (tick : Int) {instrument : Instrument} {program : Int}
    (numbered : instrument.program = .int program) :
    (encoding.sounds.renderProgram tick instrument).fault =
      (refusal? channel [program]).map .message := by
  rw [renderProgram_sounds, Rendering.fault_single, programChange, onChannel, numbered]
  exact congrArg _ (MessageFault.of?_program channel program)

include onChannel in
private theorem fault_renderNoteOff (velocity tick : Int) (key : Option KeySignature)
    (note : Note) :
    (encoding.sounds.renderNoteOff tick key note).fault =
      signFault? channel velocity (.noteOff, some (note.number key)) := by
  rw [renderNoteOff_sounds, Rendering.fault_single, noteOff, onChannel]
  cases encoding.kind with
  | standard => exact congrArg _ (MessageFault.of?_note .noteOff channel (note.number key) 0)
  | zeroVelocity => exact congrArg _ (MessageFault.of?_note .noteOn channel (note.number key) 0)

variable (loudness : encoding.velocity = some velocity)
include onChannel loudness

private theorem fault_renderNoteOn (tick : Int) (key : Option KeySignature) (note : Note) :
    (encoding.sounds.renderNoteOn tick key note).fault =
      signFault? channel velocity (.noteOn, some (note.number key)) := by
  rw [renderNoteOn_sounds, Rendering.fault_single, noteOn, onChannel, loudness]
  exact congrArg _ (MessageFault.of?_note .noteOn channel (note.number key) velocity)

private theorem fault_renderSound (tick duration : Int) (notes : List Note)
    (key : Option KeySignature) :
    (encoding.sounds.renderSound tick duration notes key).fault =
      (Cue.sound tick duration notes key).signs.findSome? (signFault? channel velocity) := by
  have starts := funext (fault_renderNoteOn onChannel loudness tick key)
  have stops := funext (fault_renderNoteOff onChannel velocity (tick + duration) key)
  rw [SoundEncoding.renderSound, Rendering.fault_append, Rendering.fault_join, Rendering.fault_join,
    List.findSome?_map, List.findSome?_map, Cue.signs, List.findSome?_append, List.findSome?_map,
    List.findSome?_map]
  exact congrArg₂ _ (congrArg (List.findSome? · notes) starts)
    (congrArg (List.findSome? · notes) stops)

private theorem fault_render {cues : List Cue} (tempi : ∀ tick marked, .tempo tick marked ∈ cues →
      ∃ value : TempoValue, marked.microsecondsPerQuarter = .ok value.val) :
    (encoding.sounds.render cues).fault =
      (cues.flatMap Cue.signs).findSome? (signFault? channel velocity) := by
  induction cues with
  | nil => rfl
  | cons cue rest ih =>
    rw [SoundEncoding.render_cons, Rendering.fault_append, List.flatMap_cons, List.findSome?_append,
      ih fun tick marked member => tempi tick marked (List.mem_cons_of_mem _ member)]
    congr 1
    cases cue with
    | tempo tick marked =>
      obtain ⟨value, computed⟩ := tempi tick marked List.mem_cons_self
      exact encoding.fault_renderTempo tick computed
    | sound tick duration notes key => exact fault_renderSound onChannel loudness ..
    | remark => rfl

end Encoding

/-- The fields of the program change and of all starts and ends, in the order of playing. -/
def Score.messageData (score : Score) (program velocity : Int) : List (List Int) :=
  [program] :: score.strokes.map fun stroke => signData velocity stroke.sign

/-- Every tempo that is played has a message. -/
def Score.TempiFit (score : Score) : Prop :=
  ∀ marked, .tempo marked ∈ score.parts →
    ∃ value : TempoValue, marked.microsecondsPerQuarter = .ok value.val

private theorem Score.mem_parts_of_performed {score : Score} {marked : Tempo}
    (performed : .tempo marked ∈ score.performed) : .tempo marked ∈ score.parts :=
  List.mem_flatMap.mpr ⟨_, performed, List.mem_singleton_self _⟩

namespace Converter
variable {converter : Converter} {score : Score} {instrument : Instrument}
  {channel program velocity : Int} (numbered : instrument.program = .int program)
  (onChannel : converter.encoding.channel = some channel)
  (loudness : converter.encoding.velocity = some velocity) (tempi : score.TempiFit)
include numbered onChannel loudness tempi

theorem fault_rendering :
    (converter.rendering instrument score).fault =
      ((score.messageData program velocity).findSome? (refusal? channel)).map .message := by
  have same := converter.encoding.sounds.render_heard (score.script converter.resolution)
  have fits : ∀ tick marked, .tempo tick marked ∈ heard (score.script converter.resolution) →
      ∃ value : TempoValue, marked.microsecondsPerQuarter = .ok value.val := by
    intro tick marked cued
    rw [Score.heard_script] at cued
    exact tempi marked (Score.mem_parts_of_performed (Playhead.tempo_mem_perform {} cued))
  have played := Encoding.fault_render onChannel loudness fits
  rw [Score.heard_script, Playhead.signs_perform score converter.resolution .start, ← Score.strokes,
    List.findSome?_map] at played
  rw [rendering_eq, sounds_eq, Rendering.fault_append, same.fault, Score.heard_script, played,
    Encoding.fault_renderProgram onChannel 0 numbered, Score.messageData, List.findSome?_cons,
    List.findSome?_map]
  cases refusal? channel [program] with
  | some fault => rfl
  | none => exact (List.map_findSome? ..).symm

end Converter

/-- A stroke that ends a note is preceded by the one that starts it. -/
private theorem exists_noteOn {past moments : List Moment} {stroke : Stroke}
    (member : stroke ∈ strokesAfter past moments) :
    ∃ start ∈ strokesAfter past moments, start.kind = .noteOn := by
  induction moments generalizing past with
  | nil => cases member
  | cons moment rest ih =>
    rw [strokesAfter] at member ⊢
    rcases List.mem_append.mp member with first | later
    · have struck : moment.sounding ≠ [] := by
        rintro silent
        rw [Moment.strokes, silent] at first
        cases first
      obtain ⟨note, among⟩ := List.exists_mem_of_ne_nil _ struck
      refine ⟨⟨.noteOn, note, past⟩, ?_, rfl⟩
      exact List.mem_append_left _ (List.mem_append_left _ (List.mem_map_of_mem among))
    · obtain ⟨start, among, kind⟩ := ih later
      exact ⟨start, List.mem_append_right _ among, kind⟩

/-- All fields of all messages of a score are in range. -/
structure Score.Playable (score : Score) (channel program velocity : Int) : Prop where
  channel : IsChannel channel
  program : IsData program
  numbers : ∀ stroke ∈ score.strokes, IsData (stroke.note.numberAfter stroke.past)
  velocity : score.strokes ≠ [] → IsData velocity

private theorem Score.playable_iff {score : Score} {channel program velocity : Int} :
    (score.messageData program velocity).findSome? (refusal? channel) = none ↔
      score.Playable channel program velocity := by
  rw [messageData, List.findSome?_eq_none_iff, List.forall_mem_cons, List.forall_mem_map]
  simp only [refusal?_eq_none, List.forall_mem_singleton]
  constructor
  · rintro ⟨⟨onChannel, program⟩, strokes⟩
    refine ⟨onChannel, program, fun stroke member => ?_, fun some => ?_⟩
    · exact (List.forall_mem_cons.mp (strokes stroke member).2).1
    · obtain ⟨stroke, member⟩ := List.exists_mem_of_ne_nil _ some
      obtain ⟨start, among, kind⟩ := exists_noteOn member
      have fits := (strokes start among).2
      rw [Stroke.sign, signData, if_pos kind] at fits
      exact fits velocity (List.mem_cons_of_mem _ List.mem_cons_self)
  · rintro ⟨onChannel, program, numbers, velocity⟩
    refine ⟨⟨onChannel, program⟩, fun stroke member => ⟨onChannel, ?_⟩⟩
    rw [Stroke.sign, signData, List.forall_mem_cons, List.forall_mem_singleton]
    refine ⟨numbers stroke member, ?_⟩
    split
    · exact velocity (List.ne_nil_of_mem member)
    · decide

namespace Converter
variable {converter : Converter} {score : Score} {instrument : Instrument}
  {records : List Log.Record} (loaded : converter.loadInstrument = .ok (instrument, records))
include loaded

private theorem delivered_of_fault {fault : EventFault}
    (failed : (converter.rendering instrument score).fault = some fault) :
    (converter.convert score).delivered = [] := by
  simp only [convert, loaded, failed]

private theorem delivered_of_sound (sound : (converter.rendering instrument score).fault = none) :
    (converter.convert score).delivered = (converter.rendering instrument score).events := by
  simp only [convert, loaded, sound]

end Converter

/-- A score whose tempi fit is converted exactly if all that is heard of it fits as well. Otherwise
the first message in the order of playing with a field out of range is what the error names, and
nothing is delivered. -/
theorem Converter.convert_succeeds_iff (converter : Converter) (score : Score)
    (instrument : Instrument) (records : List Log.Record) (channel program velocity : Int)
    (loaded : converter.loadInstrument = .ok (instrument, records))
    (numbered : instrument.program = .int program)
    (onChannel : converter.encoding.channel = some channel)
    (loudness : converter.encoding.velocity = some velocity) (tempi : score.TempiFit) :
    ((∃ track, (converter.convert score).result = .ok track) ↔
      score.Playable channel program velocity) ∧
    (∀ track, (converter.convert score).result = .ok track →
      (converter.convert score).delivered = track.events) ∧
    (¬ score.Playable channel program velocity → ∃ fault,
      (score.messageData program velocity).findSome? (refusal? channel) = some fault ∧
      (converter.convert score).result = .error (.invalidEvent (.message fault)) ∧
      ConversionError.message (.invalidEvent (.message fault)) =
        "Could not build MIDI event: " ++ fault.message ∧
      (converter.convert score).delivered = []) := by
  have checked : (converter.rendering instrument score).fault = _ :=
    fault_rendering numbered onChannel loudness tempi
  rw [← Score.playable_iff]
  cases first : (score.messageData program velocity).findSome? (refusal? channel) with
  | none =>
    rw [first] at checked
    have converted := result_of_sound loaded checked
    refine ⟨⟨fun _ => rfl, fun _ => ⟨_, converted⟩⟩, ?_, fun refused => absurd rfl refused⟩
    intro track same
    cases converted.symm.trans same
    exact delivered_of_sound loaded checked
  | some fault =>
    rw [first] at checked
    have refused := result_of_fault loaded checked
    refine ⟨⟨?_, nofun⟩, ?_, fun _ => ?_⟩
    · rintro ⟨track, converted⟩
      cases refused.symm.trans converted
    · intro track converted
      cases refused.symm.trans converted
    · exact ⟨fault, rfl, refused, rfl, delivered_of_fault loaded checked⟩

/-- A note out of range in an ending that is never played, a rest and the end of a tie out of range,
and notes that can be played. -/
def Score.spared : Score where
  items := [.tempo .allegro, .bar (.ending { target := 0 }), .note { id := 0, octave := 9 },
    .bar (.ending { target := 1 }), .note { id := 1, octave := 9, isRest := true },
    .note { id := 2, octave := 9, endsTie := true },
    .chord ⟨[{ id := 3 }, { id := 4, octave := 9, endsTie := true }]⟩, .note { id := 5 }]

theorem Converter.convert_succeeds_spared :
    Score.spared.TempiFit ∧ Score.spared.Playable 0 73 64 ∧
      ∃ track, (flute.convert Score.spared).result = .ok track := by
  have tempi : Score.spared.TempiFit := by
    intro marked played
    have member := Score.mem_items_of_played played
    obtain rfl : marked = .allegro := by simpa [Score.spared] using member
    exact ⟨500000, except_eq_ok_of_toOption (by decide +kernel)⟩
  have playable : Score.spared.Playable 0 73 64 :=
    ⟨by decide, by decide, by decide +kernel, fun _ => by decide⟩
  refine ⟨tempi, playable, ?_⟩
  exact (convert_succeeds_iff flute Score.spared _ _ 0 73 64 rfl rfl rfl rfl tempi).1.mpr playable

end ScorePlayback
