import ScorePlayback.Number.Power

/-! Binary floating point with 53 significant bits. Every operation takes the exact result, as a
ratio of naturals, and rounds it once to the nearest value; of two equally near the even one. -/

namespace ScorePlayback

/-- A finite value is `significand * 2 ^ exponent`, written with the most significant bits that
fit: the significand has 53 bits unless the exponent is the least one. -/
inductive Binary64
  | nan
  | infinite (negative : Bool)
  | finite (negative : Bool) (significand : Nat) (exponent : Int)
deriving DecidableEq, Repr, Inhabited

namespace Binary64
open Power

/-- The least significand of 53 bits. -/
def leastFull : Nat := 0x10000000000000

def leastExponent : Int := -1074

def greatestExponent : Int := 971

/-- The whole number nearest to a quotient; of two equally near the even one. -/
def roundQuotient (numerator denominator : Nat) : Nat :=
  let whole := numerator / denominator
  let rest := 2 * (numerator % denominator)
  if rest < denominator then whole
  else if denominator < rest then whole + 1
  else whole + whole % 2

/-- Whether `numerator / denominator` is below `bound * 2 ^ exponent`. -/
def ratioBelow (numerator denominator bound : Nat) (exponent : Int) : Bool :=
  numerator * divisor 2 exponent < denominator * bound * factor 2 exponent

/-- The exponent that leaves 53 bits before the point, but not less than the least one. -/
def exponentOf (numerator denominator : Nat) : Int :=
  let guess : Int := numerator.log2 - denominator.log2 - 52
  max leastExponent (if ratioBelow numerator denominator leastFull guess then guess - 1 else guess)

/-- A significand that rounding has carried to 54 bits is halved. -/
def ofScaled (negative : Bool) (significand : Nat) (exponent : Int) : Binary64 :=
  let (significand, exponent) :=
    if significand = 2 * leastFull then (leastFull, exponent + 1) else (significand, exponent)
  if greatestExponent < exponent then .infinite negative
  else .finite negative significand exponent

def zero (negative : Bool) : Binary64 := .finite negative 0 leastExponent

/-- The value nearest to a ratio. -/
def ofRatio (negative : Bool) (numerator denominator : Nat) : Binary64 :=
  if numerator = 0 then zero negative
  else
    let exponent := exponentOf numerator denominator
    ofScaled negative
      (roundQuotient (numerator * divisor 2 exponent) (denominator * factor 2 exponent))
      exponent

def ofInt (n : Int) : Binary64 := ofRatio (n < 0) n.natAbs 1

/-- The value nearest to `digits * 10 ^ exponent`. Exponents that are far outside the range are
answered without building the power. -/
def ofDecimal (negative : Bool) (digits : Nat) (exponent : Int) : Binary64 :=
  if digits = 0 then zero negative
  else if 400 < exponent then .infinite negative
  else if exponent + digits.log2 < -1200 then zero negative
  else ofRatio negative (digits * factor 10 exponent) (divisor 10 exponent)

def isNegative : Binary64 → Bool
  | nan => false
  | infinite negative => negative
  | finite negative _ _ => negative

def isFinite : Binary64 → Bool
  | finite _ _ _ => true
  | _ => false

def isZero : Binary64 → Bool
  | finite _ significand _ => significand == 0
  | _ => false

/-- Above zero or no number. -/
def isPositiveOrNaN : Binary64 → Bool
  | nan => true
  | infinite negative => !negative
  | finite negative significand _ => !negative && significand != 0

def mul : Binary64 → Binary64 → Binary64
  | finite s m e, finite t n f =>
    ofRatio (s != t) (m * n * factor 2 (e + f)) (divisor 2 (e + f))
  | nan, _ => nan
  | _, nan => nan
  | x, y => if x.isZero || y.isZero then nan else .infinite (x.isNegative != y.isNegative)

/-- The quotient by a value that is not zero. -/
def div : Binary64 → Binary64 → Binary64
  | finite s m e, finite t n f =>
    ofRatio (s != t) (m * factor 2 (e - f)) (n * divisor 2 (e - f))
  | nan, _ => nan
  | _, nan => nan
  | infinite _, infinite _ => nan
  | infinite s, finite t _ _ => .infinite (s != t)
  | finite s _ _, infinite t => zero (s != t)

def withSign (negative : Bool) (magnitude : Nat) : Int :=
  if negative then -(magnitude : Int) else magnitude

/-- Whether a value is the whole number asked for. -/
def isWhole (x : Binary64) (number : Int) : Bool :=
  match x with
  | finite negative m e => withSign negative (m * factor 2 e) == number * divisor 2 e
  | _ => false

/-- The whole part and the nearest whole number need a finite value. -/
inductive WholeFault
  | nan
  | infinite
deriving DecidableEq, Repr

def truncate : Binary64 → Except WholeFault Int
  | nan => .error .nan
  | infinite _ => .error .infinite
  | finite negative m e => .ok (withSign negative (m * factor 2 e / divisor 2 e))

/-- The nearest whole number; of two equally near the even one. -/
def round : Binary64 → Except WholeFault Int
  | nan => .error .nan
  | infinite _ => .error .infinite
  | finite negative m e =>
    .ok (withSign negative (roundQuotient (m * factor 2 e) (divisor 2 e)))

def signBit (negative : Bool) : Nat := if negative then 0x8000000000000000 else 0

/-- The interchange form, sign bit first; none for a value that is no number. -/
def bits? : Binary64 → Option Nat
  | nan => none
  | infinite negative => some (signBit negative + 0x7ff * leastFull)
  | finite negative m e =>
    if m < leastFull then some (signBit negative + m)
    else some (signBit negative + (e - leastExponent).toNat * leastFull + m)

end Binary64

end ScorePlayback
