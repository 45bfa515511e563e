import ScorePlayback.Text.Loose

/-! Control sequences of terminals: an escape character and a bracket, then parameters, then
intermediate characters, then a final one. Text that no terminal shows is freed of them. -/

namespace ScorePlayback.Text

namespace ControlSequence

def isParameter (c : Char) : Bool := '0' ≤ c && c ≤ '?'

def isIntermediate (c : Char) : Bool := ' ' ≤ c && c ≤ '/'

def isFinal (c : Char) : Bool := '@' ≤ c && c ≤ '~'

/-- The length of the sequence that a text starts with; zero if it starts with none. -/
def lengthAtFront : List TextUnit → Nat
  | .char '\x1b' :: .char '[' :: body =>
    let parameters := (body.takeWhile (TextUnit.isChar isParameter)).length
    let afterParameters := body.drop parameters
    let intermediates := (afterParameters.takeWhile (TextUnit.isChar isIntermediate)).length
    match afterParameters.drop intermediates with
    | .char c :: _ => if isFinal c then parameters + intermediates + 3 else 0
    | _ => 0
  | _ => 0

/-- `kept` holds the units so far, the latest first; the next `skipped` ones are left out. -/
def removeAfter (kept : List TextUnit) : Nat → List TextUnit → List TextUnit
  | _, [] => kept.reverse
  | skipped + 1, _ :: rest => removeAfter kept skipped rest
  | 0, unit :: rest =>
    match lengthAtFront (unit :: rest) with
    | 0 => removeAfter (unit :: kept) 0 rest
    | length + 1 => removeAfter kept length rest

end ControlSequence

def withoutControlSequences (text : LooseText) : LooseText :=
  ⟨ControlSequence.removeAfter [] 0 text.units⟩

end ScorePlayback.Text
