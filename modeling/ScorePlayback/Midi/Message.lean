import ScorePlayback.Notation.Tempo

/-! Channel messages and the tempo message. Their fields are bounded by type; whether a value fits
is checked when a message is built. -/

namespace ScorePlayback

abbrev Channel := Fin 16

abbrev DataByte := Fin 128

/-- Microseconds of a quarter note, in three bytes. -/
abbrev TempoValue := Fin 0x1000000

inductive Message
  | noteOn (channel : Channel) (note velocity : DataByte)
  | noteOff (channel : Channel) (note velocity : DataByte)
  | programChange (channel : Channel) (program : DataByte)
  | controlChange (channel : Channel) (control value : DataByte)
  | setTempo (value : TempoValue)
deriving DecidableEq, Repr

inductive MessageFault
  | channelNotWhole
  | channelRange
  | dataNotWhole
  | dataRange
  | tempoNotWhole
  | tempoRange
deriving DecidableEq, Repr

def MessageFault.message : MessageFault → String
  | channelNotWhole => "channel must be int"
  | channelRange => "channel must be in range 0..15"
  | dataNotWhole => "data byte must be int"
  | dataRange => "data byte must be in range 0..127"
  | tempoNotWhole => "attribute must be an integer"
  | tempoRange => "attribute must be in range 0..16777215"

/-- A value offered for a field of a message; none is anything but a whole number. -/
abbrev FieldValue := Option Int

namespace FieldValue

/-- A whole number below `bound`. -/
def bounded (notWhole range : MessageFault) (bound : Nat) (value : FieldValue) :
    Except MessageFault (Fin bound) :=
  match value with
  | none => .error notWhole
  | some (.negSucc _) => .error range
  | some (.ofNat n) => if inside : n < bound then .ok ⟨n, inside⟩ else .error range

def channel (value : FieldValue) : Except MessageFault Channel :=
  bounded .channelNotWhole .channelRange 16 value

def data (value : FieldValue) : Except MessageFault DataByte :=
  bounded .dataNotWhole .dataRange 128 value

end FieldValue

namespace Message

/-! The channel is checked before the other fields. -/

def ofNoteOn (channel note velocity : FieldValue) : Except MessageFault Message := do
  return .noteOn (← channel.channel) (← note.data) (← velocity.data)

def ofNoteOff (channel note velocity : FieldValue) : Except MessageFault Message := do
  return .noteOff (← channel.channel) (← note.data) (← velocity.data)

def ofProgramChange (channel program : FieldValue) : Except MessageFault Message := do
  return .programChange (← channel.channel) (← program.data)

def ofControlChange (channel control value : FieldValue) : Except MessageFault Message := do
  return .controlChange (← channel.channel) (← control.data) (← value.data)

def ofTempo (value : FieldValue) : Except MessageFault Message := do
  return .setTempo (← FieldValue.bounded .tempoNotWhole .tempoRange 0x1000000 value)

/-- A message with the waiting time that is written into it. -/
def textWith (message : Message) (time : Number) : String :=
  match message with
  | noteOn channel note velocity =>
    s!"note_on channel={channel.val} note={note.val} velocity={velocity.val} time={time.text}"
  | noteOff channel note velocity =>
    s!"note_off channel={channel.val} note={note.val} velocity={velocity.val} time={time.text}"
  | programChange channel program =>
    s!"program_change channel={channel.val} program={program.val} time={time.text}"
  | controlChange channel control value =>
    s!"control_change channel={channel.val} control={control.val} value={value.val} " ++
      s!"time={time.text}"
  | setTempo value => s!"MetaMessage('set_tempo', tempo={value.val}, time={time.text})"

def text (message : Message) : String := message.textWith (.whole 0)

end Message

end ScorePlayback
