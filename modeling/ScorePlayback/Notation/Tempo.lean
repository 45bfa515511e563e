import ScorePlayback.Number.Limit
import ScorePlayback.Number.Shortest

/-! Tempo marks, and the floating-point arithmetic that turns them into microseconds. -/

namespace ScorePlayback

/-- A number that was written either whole or with a fraction. -/
inductive Number
  | whole (value : Int)
  | real (value : Binary64)
deriving DecidableEq, Repr

namespace Number

def text : Number → String
  | whole value => toString value
  | real value => value.text

/-- The text of a number that is not too long to be written. -/
def write : Number → Except Limit String
  | whole value => writeWhole value
  | real value => .ok value.text

/-- A value that is no number is not refused as a tempo. -/
def isPositiveOrNaN : Number → Bool
  | whole value => 0 < value
  | real value => value.isPositiveOrNaN

end Number

inductive ArithmeticFault
  | wholeTooLarge
  | quotientTooLarge
  | zeroDivision
  | wholeOfNaN
  | wholeOfInfinity
deriving DecidableEq, Repr

namespace ArithmeticFault

def message : ArithmeticFault → String
  | wholeTooLarge => "int too large to convert to float"
  | quotientTooLarge => "integer division result too large for a float"
  | zeroDivision => "float division by zero"
  | wholeOfNaN => "cannot convert float NaN to integer"
  | wholeOfInfinity => "cannot convert float infinity to integer"

def ofWholeFault : Binary64.WholeFault → ArithmeticFault
  | .nan => wholeOfNaN
  | .infinite => wholeOfInfinity

end ArithmeticFault

namespace Binary64

def isInfinite : Binary64 → Bool
  | infinite _ => true
  | _ => false

/-- A whole number as a floating-point value, if it is in range. -/
def ofWhole (n : Int) : Except ArithmeticFault Binary64 :=
  let value := ofInt n
  if value.isInfinite then .error .wholeTooLarge else .ok value

def quotient (x y : Binary64) : Except ArithmeticFault Binary64 :=
  if y.isZero then .error .zeroDivision else .ok (x.div y)

/-- The whole number nearest to a value. -/
def nearestWhole (x : Binary64) : Except ArithmeticFault Int :=
  x.round.mapError .ofWholeFault

/-- The whole part of a value. -/
def wholePart (x : Binary64) : Except ArithmeticFault Int :=
  x.truncate.mapError .ofWholeFault

end Binary64

/-- A number in floating point, if it is in range. -/
def Number.toBinary64 : Number → Except ArithmeticFault Binary64
  | whole value => Binary64.ofWhole value
  | real value => .ok value

/-- `value` beats of `reference` units each a minute. -/
structure Tempo where
  value : Number
  reference : Number
  positive : value.isPositiveOrNaN = true
  referencePositive : reference.isPositiveOrNaN = true
deriving DecidableEq, Repr

namespace Tempo

/-- The beats of 96 units that a minute holds. Whole factors are multiplied exactly and divided
with one rounding. -/
def quartersPerMinute (tempo : Tempo) : Except ArithmeticFault Binary64 :=
  match tempo.value, tempo.reference with
  | .whole value, .whole reference =>
    let units := value * reference
    let quotient := Binary64.ofRatio (units < 0) units.natAbs 96
    if quotient.isInfinite then .error .quotientTooLarge else .ok quotient
  | value, reference => do
    let beats ← value.toBinary64
    let units ← reference.toBinary64
    return (beats.mul units).div (Binary64.ofInt 96)

/-- Sixty million divided by a rate, and the quotient multiplied and divided by four: microseconds
from beats a minute, or the other way. -/
def invertRate (rate : Binary64) : Except ArithmeticFault Binary64 := do
  let quotient ← (Binary64.ofInt 60000000).quotient rate
  return (quotient.mul (Binary64.ofInt 4)).div (Binary64.ofInt 4)

def microsecondsPerQuarter (tempo : Tempo) : Except ArithmeticFault Int := do
  let rate ← tempo.quartersPerMinute
  let microseconds ← invertRate rate
  microseconds.nearestWhole

end Tempo

end ScorePlayback
