/-! Limits of reading and writing. A whole number is neither read from a text with more digits than
a fixed number nor written as one, and values are gone through only so many levels deep. -/

namespace ScorePlayback

/-- The most digits that a whole number has in a text. -/
def maxDigits : Nat := 4300

/-- What is exceeded: the digits of a number that is read or written, or the levels of nesting. -/
inductive Limit
  | digitsRead (count : Nat)
  | digitsWritten
  | nesting
deriving DecidableEq, Repr

namespace Limit

def message : Limit → String
  | digitsRead count =>
    s!"Exceeds the limit ({maxDigits} digits) for integer string conversion: value has " ++
      s!"{count} digits; use sys.set_int_max_str_digits() to increase the limit"
  | digitsWritten =>
    s!"Exceeds the limit ({maxDigits} digits) for integer string conversion; " ++
      "use sys.set_int_max_str_digits() to increase the limit"
  | nesting => "maximum recursion depth exceeded"

/-- A complaint around what it shows, or the limit that keeps it from being written. -/
def complaint (shown : Except Limit String) (around : String → String) : String :=
  match shown with
  | .ok text => around text
  | .error limit => limit.message

end Limit

/-- Whether a whole number can be written. -/
def isWritable (number : Int) : Bool := number.natAbs < Nat.pow 10 maxDigits

theorem isWritable_of_lt {number : Int} {digits : Nat} (fits : digits ≤ maxDigits)
    (small : number.natAbs < Nat.pow 10 digits) : isWritable number = true := by
  refine decide_eq_true (Nat.lt_of_lt_of_le small ?_)
  generalize maxDigits = most at fits
  exact Nat.pow_le_pow_right (by decide) fits

/-- A whole number in decimal digits. -/
def writeWhole (number : Int) : Except Limit String :=
  if isWritable number then .ok (toString number) else .error .digitsWritten

theorem writeWhole_of_isWritable {number : Int} (writable : isWritable number = true) :
    writeWhole number = .ok (toString number) := if_pos writable

theorem writeWhole_of_overlong {number : Int} (overlong : isWritable number = false) :
    writeWhole number = .error .digitsWritten := if_neg (Bool.eq_false_iff.mp overlong)

end ScorePlayback
