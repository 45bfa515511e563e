import ScorePlayback.Json.Value
import ScorePlayback.Midi.Message

/-! Messages written down by a type and named fields. A field that is left out has its usual value.
One that the type does not have is refused, in a tempo message before any value is looked at and in
the others after all values. Every type has a waiting time, which comes first in the others. -/

namespace ScorePlayback

inductive MessageType
  | noteOn
  | noteOff
  | programChange
  | controlChange
  | setTempo
deriving DecidableEq, Repr

namespace MessageType

def name : MessageType → String
  | noteOn => "note_on"
  | noteOff => "note_off"
  | programChange => "program_change"
  | controlChange => "control_change"
  | setTempo => "set_tempo"

def all : List MessageType := [noteOn, noteOff, programChange, controlChange, setTempo]

def ofName? (name : LooseText) : Option MessageType := all.find? fun type => name = type.name

def fieldNames : MessageType → List String
  | noteOn => ["channel", "note", "velocity"]
  | noteOff => ["channel", "note", "velocity"]
  | programChange => ["channel", "program"]
  | controlChange => ["channel", "control", "value"]
  | setTempo => ["tempo"]

end MessageType

inductive FieldsFault
  | value (fault : MessageFault)
  | waitingNotNumber
  | unknownField (type : MessageType) (name : LooseText)
deriving DecidableEq, Repr

def FieldsFault.message : FieldsFault → LooseText
  | value fault => fault.message
  | waitingNotNumber => "time must be int or float"
  | unknownField .setTempo name => name ++ " is not a valid argument for this message type"
  | unknownField type name => s!"{type.name} message has no attribute " ++ name

/-- The fields given for a message. -/
abbrev MessageFields := List (LooseText × Value)

namespace MessageFields

/-- What is offered for a field. -/
def offered (fields : MessageFields) (name : LooseText) (usual : Int) : FieldValue :=
  (fields.lookup name).elim (some usual) Value.int?

/-- The field of the waiting time. -/
def timeName : LooseText := "time"

/-- The field of the tempo. -/
def tempoName : LooseText := "tempo"

/-- The first field that a type does not have. -/
def unknown? (fields : MessageFields) (type : MessageType) : Option LooseText :=
  (fields.map Prod.fst).find? fun name =>
    name != timeName && !type.fieldNames.any fun known => name = known

def waiting (fields : MessageFields) : Except FieldsFault Number :=
  match fields.lookup timeName with
  | none => .ok (.whole 0)
  | some (.int number) => .ok (.whole number)
  | some (.float number) => .ok (.real number)
  | some _ => .error .waitingNotNumber

/-- A message of the fields that its type has. -/
def known (fields : MessageFields) (type : MessageType) : Except MessageFault Message :=
  let channel := fields.offered "channel" 0
  let note := fields.offered "note" 0
  let velocity := fields.offered "velocity" 64
  match type with
  | .noteOn => Message.ofNoteOn channel note velocity
  | .noteOff => Message.ofNoteOff channel note velocity
  | .programChange => Message.ofProgramChange channel (fields.offered "program" 0)
  | .controlChange =>
    Message.ofControlChange channel (fields.offered "control" 0) (fields.offered "value" 0)
  | .setTempo => Message.ofTempo (fields.offered tempoName 500000)

/-- Whether the waiting time is looked at before the other fields. In a tempo message this is the
order in which they were given. -/
def timeFirst (fields : MessageFields) : MessageType → Bool
  | .setTempo => (fields.map Prod.fst).idxOf timeName < (fields.map Prod.fst).idxOf tempoName
  | _ => true

/-- A message and its waiting time, before the names of the fields are checked. -/
def timed (fields : MessageFields) (type : MessageType) : Except FieldsFault (Message × Number) :=
  let known := (fields.known type).mapError FieldsFault.value
  if fields.timeFirst type then do
    let waiting ← fields.waiting
    return (← known, waiting)
  else return (← known, ← fields.waiting)

/-- A message and its waiting time. -/
def message (fields : MessageFields) (type : MessageType) : Except FieldsFault (Message × Number) :=
  let refuse : Except FieldsFault Unit :=
    (fields.unknown? type).elim (.ok ()) fun name => .error (.unknownField type name)
  match type with
  | .setTempo => do refuse; fields.timed type
  | _ => do
    let answer ← fields.timed type
    refuse
    return answer

end MessageFields

end ScorePlayback
