import ScorePlayback.Notation.Length
import ScorePlayback.Notation.Pitch
import ScorePlayback.Performance.Route

/-! What is to be heard, and when. The route of a score becomes a list of cues; the clock and the
running key go along with it. The clock never goes back: what is repeated is heard again later. -/

namespace ScorePlayback

/-- What is worth remarking on when a bar line is visited. -/
inductive Remark
  | goesBack (index opening pass : Nat) (tick : Int)
  | skips (index pass : Nat)
deriving DecidableEq, Repr

def Remark.text : Remark → String
  | .goesBack index opening pass tick =>
    s!"Repeat at item {index}: back to item {opening} for pass {pass} (tick {tick})"
  | .skips index pass => s!"Skipping ending at item {index} on pass {pass}"

/-- `sound` starts all its notes at `tick` and ends them `duration` later, read in one key. -/
inductive Cue
  | tempo (tick : Int) (tempo : Tempo)
  | sound (tick duration : Int) (notes : List Note) (key : Option KeySignature)
  | remark (remark : Remark)

/-- The clock, the key that was last declared, and the running key: the declared one as written
accidentals have changed it in the present measure. -/
structure Playhead where
  clock : Int := 0
  declared : Option KeySignature := none
  running : Option KeySignature := none

namespace Playhead

def wait (head : Playhead) (duration : Int) : Playhead :=
  { head with clock := head.clock + duration }

/-- Plays a note without its grace notes. Only a note that sounds changes the running key. -/
def playSingle (score : Score) (resolution : Int) (head : Playhead) (note : Note) :
    Playhead × List Cue :=
  let duration := note.ticks score resolution
  if note.sounds then
    ({ head with running := carry head.running note }.wait duration,
      [.sound head.clock duration [note] head.running])
  else (head.wait duration, [])

def playEach (score : Score) (resolution : Int) (head : Playhead) :
    List Note → Playhead × List Cue
  | [] => (head, [])
  | note :: rest =>
    let (head, cues) := head.playSingle score resolution note
    let (head, more) := head.playEach score resolution rest
    (head, cues ++ more)

/-- Plays the grace notes and then the note. A tie ending takes no time of its own. -/
def playNote (score : Score) (resolution : Int) (head : Playhead) (note : Note) :
    Playhead × List Cue :=
  if note.endsTie then (head, [])
  else head.playEach score resolution (note.grace ++ [note])

/-- The notes that sound start together. Afterwards every note of the chord, whether it sounds or
not, changes the running key. -/
def playChord (score : Score) (resolution : Int) (head : Playhead) (chord : Chord) :
    Playhead × List Cue :=
  let duration := chord.ticks score resolution
  ({ head with running := chord.notes.foldl carry head.running }.wait duration,
    [.sound head.clock duration (chord.notes.filter Note.sounds) head.running])

def playItem (score : Score) (resolution : Int) (head : Playhead) : Item → Playhead × List Cue
  | .note note => head.playNote score resolution note
  | .chord chord => head.playChord score resolution chord
  | .key key => ({ head with declared := some key, running := some key }, [])
  | .tempo tempo => (head, [.tempo head.clock tempo])
  | .bar _ => (head, [])
  | .absent => (head, [])

/-- What the visit of a bar line is remarked with. -/
def remarks (repeats : RepeatState) (index : Nat) (tick : Int) (bar : Bar) : List Cue :=
  match repeats.back? bar with
  | some opening => [.remark (.goesBack index opening repeats.rewind.pass tick)]
  | none =>
    let after := repeats.onward (some index) bar
    if after.skipping && !repeats.skipping then [.remark (.skips index after.pass)] else []

/-- Visits an item: it is played unless an ending is being skipped, and at a bar line, skipped or
not, the declared key holds again. -/
def visit (score : Score) (resolution : Int) (head : Playhead) (visit : Visit) :
    Playhead × List Cue :=
  match visit.item with
  | .bar bar =>
    ({ head with running := head.declared }, remarks visit.repeats visit.index head.clock bar)
  | item => if visit.repeats.skipping then (head, []) else head.playItem score resolution item

def cues (score : Score) (resolution : Int) (head : Playhead) : List Visit → List Cue
  | [] => []
  | visit :: rest =>
    let (head, first) := head.visit score resolution visit
    first ++ head.cues score resolution rest

end Playhead

/-- All cues of a score in the order in which they are due. -/
def Score.script (score : Score) (resolution : Int) : List Cue :=
  ({} : Playhead).cues score resolution score.route

end ScorePlayback
