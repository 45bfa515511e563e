import ScorePlayback.Midi.Encoding
import ScorePlayback.Midi.Event
import ScorePlayback.Performance.Script

/-! Cues rendered as events. Rendering stops at the first message that cannot be built, and keeps
the events and remarks that came before it. -/

namespace ScorePlayback

structure Rendering where
  events : List Event := []
  remarks : List Remark := []
  fault : Option EventFault := none
deriving DecidableEq, Repr

namespace Rendering

/-- The second part is not reached if the first one ends in a fault. -/
def append (first second : Rendering) : Rendering :=
  match first.fault with
  | some _ => first
  | none => {
    events := first.events ++ second.events
    remarks := first.remarks ++ second.remarks
    fault := second.fault }

instance : Append Rendering := ⟨append⟩

theorem append_eq_of_fault {first : Rendering} {fault : EventFault}
    (failed : first.fault = some fault) (second : Rendering) : first ++ second = first := by
  change append first second = first
  simp [append, failed]

theorem append_eq_of_none {first : Rendering} (sound : first.fault = none) (second : Rendering) :
    first ++ second = {
      events := first.events ++ second.events
      remarks := first.remarks ++ second.remarks
      fault := second.fault } := by
  change append first second = _
  simp [append, sound]

@[simp] theorem empty_append (rendering : Rendering) :
    ({} : Rendering) ++ rendering = rendering := by
  rw [append_eq_of_none rfl]
  rfl

@[simp] theorem append_empty (rendering : Rendering) :
    rendering ++ ({} : Rendering) = rendering := by
  cases ending : rendering.fault with
  | some fault => exact append_eq_of_fault ending _
  | none =>
    rw [append_eq_of_none ending]
    cases rendering
    simp_all

theorem append_assoc (first second third : Rendering) :
    first ++ second ++ third = first ++ (second ++ third) := by
  change append (append first second) third = append first (append second third)
  cases ending : first.fault with
  | some fault => simp [append, ending]
  | none =>
    cases middle : second.fault with
    | some fault => simp [append, ending, middle]
    | none => simp [append, ending, middle]

def join : List Rendering → Rendering
  | [] => {}
  | first :: rest => first ++ join rest

theorem join_append (first second : List Rendering) :
    join (first ++ second) = join first ++ join second := by
  induction first with
  | nil => simp [join]
  | cons head tail ih => simp only [List.cons_append, join, ih, append_assoc]

/-- Messages at a moment, or the reason why there are none. -/
def several (tick : Int) (kind : EventKind) (messages : Except EventFault (List Message)) :
    Rendering :=
  match messages with
  | .ok messages => { events := messages.map fun message => { tick, kind, message } }
  | .error fault => { fault := some fault }

/-- One message at a moment, or the reason why there is none. -/
def single (tick : Int) (kind : EventKind) (message : Except EventFault Message) : Rendering :=
  several tick kind (message.map ([·]))

end Rendering

namespace SoundEncoding

def renderNoteOn (encoding : SoundEncoding) (tick : Int) (key : Option KeySignature)
    (note : Note) : Rendering :=
  .several tick .noteOn (encoding.noteOn note key)

def renderNoteOff (encoding : SoundEncoding) (tick : Int) (key : Option KeySignature)
    (note : Note) : Rendering :=
  .several tick .noteOff (encoding.noteOff note key)

def renderProgram (encoding : SoundEncoding) (tick : Int) (instrument : Instrument) : Rendering :=
  .several tick .programChange (encoding.program instrument)

def renderTempo (encoding : SoundEncoding) (tick : Int) (tempo : Tempo) : Rendering :=
  .several tick .tempo (encoding.tempo tempo)

/-- All notes are started, and then all are ended. -/
def renderSound (encoding : SoundEncoding) (tick duration : Int) (notes : List Note)
    (key : Option KeySignature) : Rendering :=
  .join (notes.map (encoding.renderNoteOn tick key))
    ++ .join (notes.map (encoding.renderNoteOff (tick + duration) key))

def renderCue (encoding : SoundEncoding) : Cue → Rendering
  | .tempo tick tempo => encoding.renderTempo tick tempo
  | .sound tick duration notes key => encoding.renderSound tick duration notes key
  | .remark remark => { remarks := [remark] }

def render (encoding : SoundEncoding) (cues : List Cue) : Rendering :=
  .join (cues.map encoding.renderCue)

theorem render_append (encoding : SoundEncoding) (first second : List Cue) :
    encoding.render (first ++ second) = encoding.render first ++ encoding.render second := by
  simp only [render, List.map_append, Rendering.join_append]

end SoundEncoding

end ScorePlayback
