import ScorePlayback.Midi.Quantity
import ScorePlayback.Midi.Sheet
import ScorePlayback.Text.Quoted

/-! Standard MIDI files of two tracks: one with the tempi, one with the track name, the programs and
the notes. Events of one tick are ordered by what they are, and notes end before others start. -/

namespace ScorePlayback

namespace FileFault

def message : FileFault → String
  | missingField (.setTempo _) field => s!"'MetaMessage' object has no attribute '{field}'"
  | missingField _ field => s!"'Message' object has no attribute '{field}'"
  | tempo fault => fault.message
  | resolution number =>
    if 0 ≤ number ∧ number < 0x10000000000000000 then "'H' format requires 0 <= number <= 65535"
    else "argument out of range"
  | trackName fault =>
    s!"'latin-1' codec can't encode {fault.text}: ordinal not in range(256)"

end FileFault

/-- Bytes at a moment of a track. The rank orders those of one tick. -/
structure TimedBytes where
  tick : Int
  rank : Nat
  bytes : List UInt8
deriving DecidableEq, Repr

namespace TimedBytes

def notAfter (first second : TimedBytes) : Bool :=
  first.tick < second.tick || (first.tick = second.tick && first.rank ≤ second.rank)

/-- Every event is preceded by the ticks since the one before it. -/
def withDeltas (now : Int) : List TimedBytes → List UInt8
  | [] => []
  | event :: rest => Quantity.ofInt (event.tick - now) ++ event.bytes ++ withDeltas event.tick rest

end TimedBytes

namespace MidiFile

/-- The last `width` bytes of a number, the highest first. -/
def bigEndian : Nat → Nat → List UInt8
  | 0, _ => []
  | width + 1, number => bigEndian width (number / 256) ++ [(number % 256).toUInt8]

def chunk (tag : String) (body : List UInt8) : List UInt8 :=
  tag.toUTF8.toList ++ bigEndian 4 body.length ++ body

def endOfTrack : List UInt8 := [0x00, 0xff, 0x2f, 0x00]

/-- Events in the order of time; what is equal in tick and rank stays in the order given. -/
def trackChunk (events : List TimedBytes) : List UInt8 :=
  chunk "MTrk" (TimedBytes.withDeltas 0 (events.mergeSort TimedBytes.notAfter) ++ endOfTrack)

def tempoEvent? : Entry → Option TimedBytes
  | .tempo tick microseconds =>
    some ⟨tick, 3, [0xff, 0x51, 0x03] ++ bigEndian 3 microseconds.toNat⟩
  | _ => none

def status (command : UInt8) (channel : Channel) : UInt8 := command + channel.val.toUInt8

def dataByte (value : DataByte) : UInt8 := value.val.toUInt8

/-- A note is ended with the velocity that it was started with. -/
def musicEvents : Entry → List TimedBytes
  | .program tick channel program => [⟨tick, 1, [status 0xc0 channel, dataByte program]⟩]
  | .note start stop => [
      ⟨start.tick, 3, [status 0x90 start.channel, dataByte start.note, dataByte start.velocity]⟩,
      ⟨stop, 2, [status 0x80 start.channel, dataByte start.note, dataByte start.velocity]⟩]
  | _ => []

def nameEvent (name : List UInt8) : TimedBytes :=
  ⟨0, 0, [0xff, 0x03] ++ Quantity.ofNat name.length ++ name⟩

def header (resolution : Nat) : List UInt8 :=
  chunk "MThd" (bigEndian 2 1 ++ bigEndian 2 2 ++ bigEndian 2 resolution)

def bytes (resolution : Nat) (name : List UInt8) (entries : List Entry) : List UInt8 :=
  header resolution ++ trackChunk (entries.filterMap tempoEvent?)
    ++ trackChunk (nameEvent name :: entries.flatMap musicEvents)

/-- The bytes of a file or the fault that there is none for, and the warnings on the way. -/
structure Rendered where
  result : Except FileFault (List UInt8)
  log : List Log.Record

/-- The resolution is checked first and the name of the track second. -/
def ofTrack (name : LooseText) (track : Track) : Rendered :=
  if 0 ≤ track.resolution ∧ track.resolution < 0x10000 then
    match Text.Latin1.encode name with
    | .error fault => { result := .error (.trackName fault), log := [] }
    | .ok name =>
      let sheet := Sheet.ofEvents [] track.events
      match sheet.fault with
      | some fault => { result := .error fault, log := sheet.log }
      | none =>
        let content := bytes track.resolution.toNat name sheet.entries
        { result := .ok content, log := sheet.log }
  else { result := .error (.resolution track.resolution), log := [] }

/-- What is logged when a track has been written. -/
def writtenRecord (track : Track) (path : LooseText) : Log.Record where
  severity := .info
  source := .file
  text := s!"Wrote {track.events.length} events to " ++ path

end MidiFile

end ScorePlayback
