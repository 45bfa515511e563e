import ScorePlayback.Notation.Bar
import ScorePlayback.Notation.KeySignature
import ScorePlayback.Notation.Note

/-! Scores: sequences of notes, chords, bars, keys and tempi. -/

namespace ScorePlayback

/-- `absent` keeps the place of an item that is not there. -/
inductive Item
  | note (note : Note)
  | chord (chord : Chord)
  | bar (bar : Bar)
  | key (key : KeySignature)
  | tempo (tempo : Tempo)
  | absent
deriving Inhabited

/-- The notes that an item consists of. Grace notes are not among them. -/
def Item.notes : Item → List Note
  | .note single => [single]
  | .chord together => together.notes
  | _ => []

structure Score where
  items : List Item
deriving Inhabited

namespace Score

/-- Where a note stands: an item, or a note of a chord. -/
inductive Place
  | item (index : Nat)
  | inChord (index position : Nat)
deriving DecidableEq, Repr

/-- The note of an identity, looked for in items and chords but not among grace notes. -/
def find? (score : Score) (id : Nat) : Option Note :=
  score.items.findSome? fun item => item.notes.find? (·.id == id)

def placeFrom? (id : Nat) (index : Nat) : List Item → Option Place
  | [] => none
  | .note note :: rest =>
    if note.id = id then some (.item index) else placeFrom? id (index + 1) rest
  | .chord chord :: rest =>
    match chord.notes.findIdx? (·.id == id) with
    | some position => some (.inChord index position)
    | none => placeFrom? id (index + 1) rest
  | _ :: rest => placeFrom? id (index + 1) rest

/-- The first place of a note. -/
def place? (score : Score) (id : Nat) : Option Place := placeFrom? id 0 score.items

def text (score : Score) : String := s!"Score({score.items.length} items)"

end Score

end ScorePlayback
