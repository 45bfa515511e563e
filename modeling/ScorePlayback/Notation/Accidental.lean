/-! Accidentals, from double flat to double sharp with quarter tones between. -/

namespace ScorePlayback

inductive Accidental
  | natural
  | sharp
  | flat
  | doubleSharp
  | doubleFlat
  | halfSharp
  | halfFlat
deriving DecidableEq, Repr, Inhabited

namespace Accidental

def quarterTones : Accidental → Int
  | natural => 0
  | sharp => 2
  | flat => -2
  | doubleSharp => 4
  | doubleFlat => -4
  | halfSharp => 1
  | halfFlat => -1

/-- The semitones nearest to an accidental; a single quarter tone counts as a whole semitone. -/
def semitones (accidental : Accidental) : Int :=
  let tones := accidental.quarterTones
  if 0 < tones then (tones + 1) / 2 else -((-tones + 1) / 2)

def name : Accidental → String
  | natural => "NATURAL"
  | sharp => "SHARP"
  | flat => "FLAT"
  | doubleSharp => "DOUBLE_SHARP"
  | doubleFlat => "DOUBLE_FLAT"
  | halfSharp => "HALF_SHARP"
  | halfFlat => "HALF_FLAT"

/-- The name of an accidental that may be absent. -/
def nameOf (accidental : Option Accidental) : String := accidental.elim "NONE" name

/-- The semitones of an accidental that may be absent. -/
def semitonesOf (accidental : Option Accidental) : Int := accidental.elim 0 semitones

end Accidental

end ScorePlayback
