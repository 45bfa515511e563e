import ScorePlayback.Log
import ScorePlayback.Midi.Event
import ScorePlayback.Notation.Tempo
import ScorePlayback.Text.Latin1

/-! Events gathered into notes. A note-off ends the note of its channel and number that has been
sounding longest; a note-off without one, and a note-on that nothing ends, leave no note. -/

namespace ScorePlayback

inductive FileFault
  | missingField (message : Message) (field : String)
  | tempo (fault : ArithmeticFault)
  | resolution (resolution : Int)
  | trackName (fault : Text.UnencodableRun)
deriving DecidableEq, Repr

namespace Message

def channel? : Message → Option Channel
  | noteOn channel _ _ => some channel
  | noteOff channel _ _ => some channel
  | programChange channel _ => some channel
  | controlChange channel _ _ => some channel
  | setTempo _ => none

def noteAndVelocity? : Message → Option (DataByte × DataByte)
  | noteOn _ note velocity => some (note, velocity)
  | noteOff _ note velocity => some (note, velocity)
  | _ => none

def program? : Message → Option DataByte
  | programChange _ program => some program
  | _ => none

/-- A field that an event needs its message to have. -/
def require (message : Message) (field : String) (value : Option α) : Except FileFault α :=
  value.elim (.error (.missingField message field)) .ok

end Message

/-- A note that has been started and not yet ended. -/
structure Start where
  channel : Channel
  note : DataByte
  tick : Int
  velocity : DataByte
deriving DecidableEq, Repr

def Start.isOf (channel : Channel) (note : DataByte) (start : Start) : Bool :=
  start.channel = channel && start.note = note

/-- What an event leaves on the sheet. -/
inductive Entry
  | tempo (tick : Int) (microseconds : Int)
  | program (tick : Int) (channel : Channel) (program : DataByte)
  | note (start : Start) (stop : Int)
  | strayStop (note : DataByte) (tick : Int)
deriving DecidableEq, Repr

structure Sheet where
  entries : List Entry := []
  unreleased : List Start := []
  fault : Option FileFault := none
deriving DecidableEq, Repr

/-- The microseconds that a file states for a tempo, computed from the beats a minute. -/
def Tempo.statedMicroseconds (value : TempoValue) : Except ArithmeticFault Int := do
  let rate ← invertRate (Binary64.ofInt value.val)
  let microseconds ← (Binary64.ofInt 60000000).quotient rate
  microseconds.wholePart

namespace Sheet

/-- The starts that are pending after an event, and the entry that it leaves. -/
def step (pending : List Start) (event : Event) : Except FileFault (List Start × Option Entry) :=
  let message := event.message
  match event.kind with
  | .tempo =>
    match message with
    | .setTempo value =>
      match Tempo.statedMicroseconds value with
      | .ok microseconds => .ok (pending, some (.tempo event.tick microseconds))
      | .error fault => .error (.tempo fault)
    | _ => .ok (pending, none)
  | .programChange => do
    let channel ← message.require "channel" message.channel?
    let program ← message.require "program" message.program?
    return (pending, some (.program event.tick channel program))
  | .noteOn => do
    let channel ← message.require "channel" message.channel?
    let (note, velocity) ← message.require "note" message.noteAndVelocity?
    return (pending ++ [{ channel, note, tick := event.tick, velocity }], none)
  | .noteOff => do
    let channel ← message.require "channel" message.channel?
    let (note, _) ← message.require "note" message.noteAndVelocity?
    match pending.find? (Start.isOf channel note) with
    | some start => return (pending.eraseP (Start.isOf channel note), some (.note start event.tick))
    | none => return (pending, some (.strayStop note event.tick))

/-- Goes through the events in the order in which they were added, up to the first fault. -/
def ofEvents (pending : List Start) : List Event → Sheet
  | [] => { unreleased := pending }
  | event :: rest =>
    match step pending event with
    | .error fault => { fault := some fault }
    | .ok (pending, entry) =>
      let sheet := ofEvents pending rest
      { sheet with entries := entry.toList ++ sheet.entries }

def strayRecord? : Entry → Option Log.Record
  | .strayStop note tick => some {
      severity := .warning, source := .file,
      text := s!"Note-off without note-on for pitch {note.val} at tick {tick}" }
  | _ => none

def unreleasedRecords (count : Nat) : List Log.Record :=
  if count = 0 then []
  else [{
    severity := .warning, source := .file
    text := s!"{count} note-on event(s) were never released and are dropped" }]

/-- The warnings about events that leave no note. -/
def log (sheet : Sheet) : List Log.Record :=
  sheet.entries.filterMap strayRecord? ++ unreleasedRecords sheet.unreleased.length

end Sheet

end ScorePlayback
