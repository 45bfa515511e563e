import ScorePlayback.Conversion

/-! What a rendering without a fault contains: both parts of it are without one, and every message
in it carries the values that were asked for. -/

namespace ScorePlayback

theorem except_bind_eq_ok {first : Except ε α} {next : α → Except ε β} {value : β} :
    (first >>= next) = .ok value ↔ ∃ middle, first = .ok middle ∧ next middle = .ok value := by
  cases first <;> simp [bind, Except.bind]

theorem except_mapError_eq_ok {result : Except ε α} {f : ε → δ} {value : α} :
    result.mapError f = .ok value ↔ result = .ok value := by
  cases result with
  | error => exact ⟨nofun, nofun⟩
  | ok => constructor <;> (intro same; cases same; rfl)

theorem except_eq_ok_getD {result : Except ε α} (succeeds : result.isOk = true) (other : α) :
    result = .ok (result.toOption.getD other) := by
  cases result with
  | error => cases succeeds
  | ok => rfl

theorem except_eq_ok_of_toOption {result : Except ε α} {value : α}
    (found : result.toOption = some value) : result = .ok value := by
  cases result with
  | error => cases found
  | ok => cases found; rfl

theorem FieldValue.bounded_eq_ok {notWhole range : MessageFault} {bound : Nat}
    {value : FieldValue} {field : Fin bound} :
    FieldValue.bounded notWhole range bound value = .ok field ↔ value = some (field.val : Int) := by
  match value with
  | none => simp [bounded]
  | some (.negSucc n) => simp only [bounded, reduceCtorEq, Option.some.injEq]
  | some (.ofNat n) =>
    simp only [bounded]
    split
    next inside =>
      simp only [Except.ok.injEq, Option.some.injEq, Fin.ext_iff, Int.ofNat_eq_natCast]
      omega
    next outside =>
      simp only [reduceCtorEq, Option.some.injEq, false_iff, Int.ofNat_eq_natCast]
      omega

/-- The number of the note that a message starts or ends. -/
def Message.note? : Message → Option Int
  | .noteOn _ note _ => some note.val
  | .noteOff _ note _ => some note.val
  | _ => none

namespace Message
variable {channel velocity : FieldValue} {number : Int} {message : Message}

theorem note?_ofNoteOn (built : ofNoteOn channel (some number) velocity = .ok message) :
    message.note? = some number := by
  obtain ⟨channel, -, built⟩ := except_bind_eq_ok.mp built
  obtain ⟨note, data, built⟩ := except_bind_eq_ok.mp built
  obtain ⟨velocity, -, built⟩ := except_bind_eq_ok.mp built
  cases built
  exact (FieldValue.bounded_eq_ok.mp data).symm

private theorem note?_ofNoteOff (built : ofNoteOff channel (some number) velocity = .ok message) :
    message.note? = some number := by
  obtain ⟨channel, -, built⟩ := except_bind_eq_ok.mp built
  obtain ⟨note, data, built⟩ := except_bind_eq_ok.mp built
  obtain ⟨velocity, -, built⟩ := except_bind_eq_ok.mp built
  cases built
  exact (FieldValue.bounded_eq_ok.mp data).symm

end Message

namespace Encoding
variable {encoding : Encoding} {note : Note} {key : Option KeySignature} {message : Message}

theorem note?_noteOn (built : encoding.noteOn note key = .ok message) :
    message.note? = some (note.number key) := Message.note?_ofNoteOn built

theorem note?_noteOff (built : encoding.noteOff note key = .ok message) :
    message.note? = some (note.number key) := by
  unfold noteOff at built
  split at built
  next => exact Message.note?_ofNoteOff built
  next => exact Message.note?_ofNoteOn built

theorem renderNoteOn_sounds (encoding : Encoding) (tick : Int) (key : Option KeySignature)
    (note : Note) : encoding.sounds.renderNoteOn tick key note =
      .single tick .noteOn ((encoding.noteOn note key).mapError .message) := rfl

theorem renderNoteOff_sounds (encoding : Encoding) (tick : Int) (key : Option KeySignature)
    (note : Note) : encoding.sounds.renderNoteOff tick key note =
      .single tick .noteOff ((encoding.noteOff note key).mapError .message) := rfl

theorem renderProgram_sounds (encoding : Encoding) (tick : Int) (instrument : Instrument) :
    encoding.sounds.renderProgram tick instrument =
      .single tick .programChange ((encoding.programChange instrument).mapError .message) := rfl

theorem renderTempo_sounds (encoding : Encoding) (tick : Int) (marked : Tempo) :
    encoding.sounds.renderTempo tick marked = .single tick .tempo (encoding.tempo marked) := rfl

end Encoding

namespace Rendering

theorem append_eq_none {first second : Rendering} (sound : (first ++ second).fault = none) :
    first.fault = none ∧ second.fault = none ∧
      (first ++ second).events = first.events ++ second.events := by
  cases failed : first.fault with
  | some fault =>
    rw [append_eq_of_fault failed, failed] at sound
    cases sound
  | none =>
    rw [append_eq_of_none failed] at sound ⊢
    exact ⟨rfl, sound, rfl⟩

theorem single_eq_none {tick : Int} {kind : EventKind} {message : Except EventFault Message}
    (sound : (single tick kind message).fault = none) :
    ∃ built, message = .ok built ∧
      (single tick kind message).events = [{ tick, kind, message := built }] := by
  cases message with
  | ok built => exact ⟨built, rfl, rfl⟩
  | error => cases sound

end Rendering

/-- A track that a conversion returns holds the whole rendering of the score. -/
theorem Converter.convert_eq_ok {ε : Type} [Encodes ε] {converter : Converter ε} {score : Score}
    {track : Track}
    (converted : (converter.convert score).result = .ok track) :
    ∃ instrument records, converter.loadInstrument = .ok (instrument, records) ∧
      (converter.rendering instrument score).fault = none ∧
      track = ⟨converter.resolution, (converter.rendering instrument score).events⟩ := by
  unfold convert at converted
  split at converted
  next => cases converted
  next instrument records loaded =>
    dsimp only at converted
    split at converted
    next => cases converted
    next sound =>
      cases converted
      exact ⟨instrument, records, loaded, sound, rfl⟩

/-- The settings of an encoding say which messages a converter has. -/
theorem Converter.sounds_eq (converter : Converter) :
    converter.sounds = converter.encoding.sounds := rfl

namespace Converter
variable {ε : Type} [Encodes ε] {converter : Converter ε} {score : Score} {instrument : Instrument}
  {records : List Log.Record} (loaded : converter.loadInstrument = .ok (instrument, records))
include loaded

theorem result_of_fault {fault : EventFault}
    (failed : (converter.rendering instrument score).fault = some fault) :
    (converter.convert score).result = .error (.ofFault fault) := by
  simp only [convert, loaded, failed]

theorem result_of_sound (sound : (converter.rendering instrument score).fault = none) :
    (converter.convert score).result =
      .ok ⟨converter.resolution, (converter.rendering instrument score).events⟩ := by
  simp only [convert, loaded, sound]

end Converter

end ScorePlayback
