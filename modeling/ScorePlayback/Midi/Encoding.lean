import ScorePlayback.Midi.Instrument
import ScorePlayback.Midi.Message
import ScorePlayback.Notation.Pitch

/-! Which messages stand for the start and the end of a note, for a tempo and for an instrument. Any
functions to messages may say so; the settings of the two common ways give such functions. -/

namespace ScorePlayback

/-- A note is ended by a message of its own or by a start with velocity zero. -/
inductive EncodingKind
  | standard
  | zeroVelocity
deriving DecidableEq, Repr

namespace EncodingKind

def name : EncodingKind → String
  | standard => "standard"
  | zeroVelocity => "zero-velocity"

def all : List EncodingKind := [standard, zeroVelocity]

/-- An encoding by its name in any case, with blanks around it or not. -/
def ofName? (name : LooseText) : Option EncodingKind :=
  all.find? fun kind => Text.lower (Text.strip name) = kind.name

/-- The complaint about a name that no encoding has. -/
def unsupported (name : LooseText) : LooseText :=
  let supported := ", ".intercalate (all.map EncodingKind.name)
  "Unsupported encoding '" ++ name ++ s!"'. Use one of: {supported}."

end EncodingKind

/-- The settings of an encoding of one of the kinds. -/
structure Encoding where
  kind : EncodingKind := .standard
  velocity : FieldValue := some 64
  channel : FieldValue := some 0
deriving DecidableEq, Repr

/-- Why an event has no message: a field is out of bounds, or the tempo cannot be computed. -/
inductive EventFault
  | message (fault : MessageFault)
  | arithmetic (fault : ArithmeticFault)
deriving DecidableEq, Repr

def EventFault.text : EventFault → String
  | message fault => fault.message
  | arithmetic fault => fault.message

/-- The messages for a sound, several of them or none. -/
structure SoundEncoding where
  noteOn : Note → Option KeySignature → Except EventFault (List Message)
  noteOff : Note → Option KeySignature → Except EventFault (List Message)
  program : Instrument → Except EventFault (List Message)
  tempo : Tempo → Except EventFault (List Message)

/-- What sounds are encoded by. -/
class Encodes (ε : Type) where
  sounds : ε → SoundEncoding

instance : Encodes SoundEncoding := ⟨id⟩

namespace Encoding

def noteOn (encoding : Encoding) (note : Note) (key : Option KeySignature) :
    Except MessageFault Message :=
  Message.ofNoteOn encoding.channel (some (note.number key)) encoding.velocity

def noteOff (encoding : Encoding) (note : Note) (key : Option KeySignature) :
    Except MessageFault Message :=
  match encoding.kind with
  | .standard => Message.ofNoteOff encoding.channel (some (note.number key)) (some 0)
  | .zeroVelocity => Message.ofNoteOn encoding.channel (some (note.number key)) (some 0)

def programChange (encoding : Encoding) (instrument : Instrument) : Except MessageFault Message :=
  Message.ofProgramChange encoding.channel instrument.program.int?

def tempo (_ : Encoding) (tempo : Tempo) : Except EventFault Message := do
  let value ← tempo.microsecondsPerQuarter.mapError .arithmetic
  (Message.ofTempo (some value)).mapError .message

/-- Every sound has a single message. -/
def sounds (encoding : Encoding) : SoundEncoding where
  noteOn note key := ((encoding.noteOn note key).mapError .message).map ([·])
  noteOff note key := ((encoding.noteOff note key).mapError .message).map ([·])
  program instrument := ((encoding.programChange instrument).mapError .message).map ([·])
  tempo tempo := (encoding.tempo tempo).map ([·])

end Encoding

instance : Encodes Encoding := ⟨Encoding.sounds⟩

end ScorePlayback
