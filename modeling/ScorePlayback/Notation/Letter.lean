import ScorePlayback.Text.LetterCase

/-! Note letters and their heights above C. -/

namespace ScorePlayback

inductive Letter
  | c | d | e | f | g | a | b
deriving DecidableEq, Repr, Inhabited

namespace Letter

def naturalHeight : Letter → Nat
  | c => 0
  | d => 2
  | e => 4
  | f => 5
  | g => 7
  | a => 9
  | b => 11

def name : Letter → String
  | c => "C"
  | d => "D"
  | e => "E"
  | f => "F"
  | g => "G"
  | a => "A"
  | b => "B"

def all : List Letter := [c, d, e, f, g, a, b]

def ofName? (name : String) : Option Letter := all.find? (·.name == name)

/-- A letter in either case. -/
def ofText? (text : LooseText) : Option Letter := (Text.upper text).string?.bind ofName?

end Letter

/-- The twelve places of an octave, C first. -/
abbrev PitchPosition := Fin 12

def PitchPosition.ofHeight (height : Int) : PitchPosition :=
  ⟨(height % 12).toNat, by omega⟩

end ScorePlayback
