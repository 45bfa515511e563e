import ScorePlayback.Notation.KeySignature
import ScorePlayback.Notation.Note

/-! Note numbers. A written accidental decides; without one the running key does, and without a
key the note is natural. A written accidental then stays in the running key. -/

namespace ScorePlayback

/-- The number of middle C. -/
def middleC : Int := 60

def Note.alteration (note : Note) (key : Option KeySignature) : Int :=
  match note.accidental, key with
  | some written, _ => written.semitones
  | none, some key => Accidental.semitonesOf (key.accidentalAt note.position)
  | none, none => 0

/-- The number is not bounded here. -/
def Note.number (note : Note) (key : Option KeySignature) : Int :=
  middleC + note.strictHeight + 12 * note.transposition + note.alteration key

def KeySignature.carry (key : KeySignature) (note : Note) : KeySignature :=
  match note.accidental with
  | some written => key.setAccidental note.position (some written)
  | none => key

/-- The running key after a note. -/
def carry (key : Option KeySignature) (note : Note) : Option KeySignature := key.map (·.carry note)

end ScorePlayback
