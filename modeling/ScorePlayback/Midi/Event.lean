import ScorePlayback.Midi.Message
import ScorePlayback.Text.Quoted

/-! Messages at moments of a sequence, in the order in which they were added. -/

namespace ScorePlayback

/-- What an event does, whatever message stands for it. -/
inductive EventKind
  | noteOn
  | noteOff
  | tempo
  | programChange
deriving DecidableEq, Repr

namespace EventKind

def name : EventKind → String
  | noteOn => "note_on"
  | noteOff => "note_off"
  | tempo => "tempo"
  | programChange => "program_change"

def all : List EventKind := [noteOn, noteOff, tempo, programChange]

def ofName? (name : LooseText) : Option EventKind := all.find? fun kind => name = kind.name

/-- The complaint about a name, shown as messages show it, that no kind has. -/
def unknownName (shown : String) : String := s!"{shown} is not a valid EventKind"

end EventKind

/-- The waiting time in the message of an event has no part in its moment. -/
structure Event where
  tick : Int
  kind : EventKind
  message : Message
  waiting : Number := .whole 0
deriving DecidableEq, Repr

/-- The message of an event as it is written down. -/
def Event.text (event : Event) : String := event.message.textWith event.waiting

structure Track where
  resolution : Int
  events : List Event := []
deriving DecidableEq, Repr

namespace Track

def append (track : Track) (event : Event) : Track :=
  { track with events := track.events ++ [event] }

/-- The tick of the latest event. -/
def ticks (track : Track) : Int :=
  match track.events with
  | [] => 0
  | first :: rest => rest.foldl (fun latest event => max latest event.tick) first.tick

def ofKind (track : Track) (kind : EventKind) : List Event :=
  track.events.filter (·.kind = kind)

/-- The events by tick; those of one tick stay in the order in which they were added. -/
def sorted (track : Track) : List Event :=
  track.events.mergeSort fun first second => first.tick ≤ second.tick

end Track

end ScorePlayback
