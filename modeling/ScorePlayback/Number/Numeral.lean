import ScorePlayback.Number.Limit
import ScorePlayback.Text.Blank
import ScorePlayback.Text.Digit

/-! Whole numbers written in decimal digits of any script. A single underscore may stand between
two digits. -/

namespace ScorePlayback.Numeral
open Text

inductive Fault
  | notNumeral
  | tooManyDigits (count : Nat)
deriving DecidableEq, Repr

/-- The digits that continue a group, and what follows them. -/
def continueGroup : List Char → List Nat × List Char
  | '_' :: c :: rest =>
    match decimalDigit? c with
    | some digit => let (digits, after) := continueGroup rest; (digit :: digits, after)
    | none => ([], '_' :: c :: rest)
  | c :: rest =>
    match decimalDigit? c with
    | some digit => let (digits, after) := continueGroup rest; (digit :: digits, after)
    | none => ([], c :: rest)
  | [] => ([], [])

/-- The digits at the front of a text, if it starts with one, and what follows them. -/
def digitGroup? : List Char → Option (List Nat × List Char)
  | c :: rest => (decimalDigit? c).map fun digit =>
    let (digits, after) := continueGroup rest
    (digit :: digits, after)
  | [] => none

def valueOf (digits : List Nat) : Nat := digits.foldl (fun value digit => value * 10 + digit) 0

/-- Whether a minus sign is in front, and what follows the sign. -/
def splitSign : List Char → Bool × List Char
  | '-' :: rest => (true, rest)
  | '+' :: rest => (false, rest)
  | text => (false, text)

/-- Blanks allowed around a number: all but the four information separators. -/
def isBlankAround (c : Char) : Bool := isBlank c && !(0x1c ≤ c.toNat && c.toNat ≤ 0x1f)

/-- A number without a sign. Digits are counted before it is seen that something other than an
underscore follows them. -/
def ofUnsigned (text : List Char) : Except Fault Nat :=
  match digitGroup? text with
  | none => .error .notNumeral
  | some (digits, after) =>
    if maxDigits < digits.length ∧ after.head? ≠ some '_' then
      .error (.tooManyDigits digits.length)
    else if after.isEmpty then .ok (valueOf digits)
    else .error .notNumeral

def ofChars (text : List Char) : Except Fault Int :=
  let (negative, unsigned) := splitSign (trim isBlankAround text)
  (ofUnsigned unsigned).map fun number => if negative then -(number : Int) else number

/-- A broken text is no number. -/
def ofText (text : LooseText) : Except Fault Int :=
  text.chars?.elim (.error .notNumeral) ofChars

end ScorePlayback.Numeral
