import ScorePlayback.Notation.Accidental
import ScorePlayback.Notation.Letter
import ScorePlayback.Notation.Error
import ScorePlayback.Text.Blank

/-! Key signatures: the accidental of each of the twelve places of an octave, built from a number
of sharps or flats or from the name of a key. -/

namespace ScorePlayback

structure KeySignature where
  accidentals : Vector (Option Accidental) 12
deriving DecidableEq, Repr

namespace KeySignature
open Text

/-- No place is altered. -/
def plain : KeySignature := ⟨Vector.replicate 12 (some .natural)⟩

instance : Inhabited KeySignature := ⟨plain⟩

def accidentalAt (key : KeySignature) (position : PitchPosition) : Option Accidental :=
  key.accidentals[position]

def setAccidental (key : KeySignature) (position : PitchPosition)
    (accidental : Option Accidental) : KeySignature :=
  ⟨key.accidentals.set position accidental⟩

theorem accidentalAt_setAccidental (key : KeySignature) (place position : PitchPosition)
    (accidental : Option Accidental) :
    (key.setAccidental place accidental).accidentalAt position =
      if place = position then accidental else key.accidentalAt position := by
  simp [accidentalAt, setAccidental, Vector.getElem_set, Fin.ext_iff]

def ofList (accidentals : List (Option Accidental)) : Except NotationError KeySignature :=
  if sized : accidentals.length = 12 then .ok ⟨⟨accidentals.toArray, by simpa using sized⟩⟩
  else .error (.accidentalCount accidentals.length)

/-- The letters in the order in which a key sharpens them. -/
def sharpOrder : List Letter := [.f, .c, .g, .d, .a, .e, .b]

/-- The letters in the order in which a key flattens them. -/
def flatOrder : List Letter := [.b, .e, .a, .d, .g, .c, .f]

def alter (accidental : Accidental) (letters : List Letter) : KeySignature :=
  letters.foldl (fun key letter => key.setAccidental (.ofHeight letter.naturalHeight) accidental)
    plain

/-- Sharps are counted up and flats down. -/
def ofFifths (fifths : Int) : Except NotationError KeySignature :=
  if -7 ≤ fifths ∧ fifths ≤ 7 then
    .ok (if 0 < fifths then alter .sharp (sharpOrder.take fifths.toNat)
      else alter .flat (flatOrder.take (-fifths).toNat))
  else .error (.fifths fifths)

/-- The place of a major key's tonic on the circle of fifths. -/
def tonicFifths : Letter → Int
  | .f => -1
  | .c => 0
  | .g => 1
  | .d => 2
  | .a => 3
  | .e => 4
  | .b => 5

/-- How far the modes lie from the major one on the circle of fifths. -/
def modes : List (String × Int) := [
  ("", 0), ("maj", 0), ("ion", 0), ("m", -3), ("min", -3), ("aeo", -3), ("dor", -2), ("phr", -4),
  ("lyd", 1), ("mix", -1), ("loc", -5)]

/-- Only the first three characters of a mode count. -/
def modeFifths? (mode : LooseText) : Option Int :=
  (LooseText.string? ⟨mode.units.take 3⟩).bind fun name => modes.lookup name

/-- A sharp or flat right after the tonic, and what follows it. -/
def splitAlteration : List TextUnit → Int × List TextUnit
  | .char '#' :: rest => (7, rest)
  | .char 'b' :: rest => (-7, rest)
  | text => (0, text)

/-- A key by its tonic, an optional `#` or `b`, and an optional mode. -/
def ofName (name : LooseText) : Except NotationError KeySignature :=
  match (strip name).units with
  | [] => .error (.tonic name)
  | first :: rest =>
    match Letter.ofText? ⟨[first]⟩ with
    | none => .error (.tonic name)
    | some tonic =>
      let (alteration, rest) := splitAlteration rest
      match modeFifths? (lower (strip ⟨rest⟩)) with
      | none => .error (.mode ⟨rest⟩ name)
      | some mode => ofFifths (tonicFifths tonic + alteration + mode)

def text (key : KeySignature) : String :=
  let altered := (List.finRange 12).filter fun position =>
    key.accidentalAt position != some Accidental.natural
  let entry (position : PitchPosition) : String :=
    s!"{position.val}: {Text.quote (Accidental.nameOf (key.accidentalAt position))}"
  "KeySignature(\x7b" ++ ", ".intercalate (altered.map entry) ++ "\x7d)"

end KeySignature

end ScorePlayback
