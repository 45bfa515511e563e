import ScorePlayback.Notation.Error

/-! Bar lines, repeat marks and numbered endings. -/

namespace ScorePlayback

inductive BarLine
  | simple
  | repeatOpen
  | repeatClose
  | repeatCloseOpen
deriving DecidableEq, Repr, Inhabited

namespace BarLine

def sign : BarLine → String
  | simple => "|"
  | repeatOpen => "|:"
  | repeatClose => ":|"
  | repeatCloseOpen => ":|:"

def name : BarLine → String
  | simple => "SIMPLE"
  | repeatOpen => "REPEAT_OPEN"
  | repeatClose => "REPEAT_CLOSE"
  | repeatCloseOpen => "REPEAT_CLOSE_OPEN"

def all : List BarLine := [simple, repeatOpen, repeatClose, repeatCloseOpen]

def ofSign? (sign : LooseText) : Option BarLine := all.find? fun line => sign = line.sign

/-- The complaint about a sign, shown as messages show it, that no bar line has. -/
def unknownSign (shown : String) : String := s!"{shown} is not a valid BarLineType"

end BarLine

/-- The passes that an ending is listed for. Only the first listed, the target, is played. -/
structure Ending where
  target : Int
  others : List Int := []
  line : BarLine := .simple
deriving DecidableEq, Repr, Inhabited

namespace Ending

def numbers (ending : Ending) : List Int := ending.target :: ending.others

def ofNumbers (line : BarLine) : List Int → Except NotationError Ending
  | [] => .error .noPassNumber
  | target :: others => .ok { target, others, line }

end Ending

inductive Bar
  | line (line : BarLine)
  | ending (ending : Ending)
deriving DecidableEq, Repr, Inhabited

end ScorePlayback
