import ScorePlayback.Number.Numeral
import ScorePlayback.Number.Power

/-! Exact fractions read from text: `3/8`, `0.375` and `375e-3` are the same number. -/

namespace ScorePlayback.Fraction
open Numeral

inductive Fault
  | notNumeral
  | tooManyDigits
  | zeroDenominator
deriving DecidableEq, Repr

/-- A number before its sign and reduction. -/
structure Parts where
  numerator : Nat
  denominator : Nat
deriving DecidableEq, Repr

def Parts.scale (parts : Parts) (exponent : Int) : Parts :=
  ⟨parts.numerator * Power.factor 10 exponent, parts.denominator * Power.divisor 10 exponent⟩

def decimalParts (whole decimals : List Nat) (exponent : Int) : Parts :=
  Parts.scale ⟨valueOf (whole ++ decimals), 1⟩ (exponent - decimals.length)

/-- The digits of an unsigned number. Where a group is missing there are none. -/
inductive Groups
  | ratio (numerator denominator : List Nat)
  | decimal (whole decimals : List Nat) (below : Bool) (exponent : List Nat)
deriving DecidableEq, Repr

namespace Groups

def all : Groups → List (List Nat)
  | ratio numerator denominator => [numerator, denominator]
  | decimal whole decimals _ exponent => [whole, decimals, exponent]

def parts : Groups → Parts
  | ratio numerator denominator => ⟨valueOf numerator, valueOf denominator⟩
  | decimal whole decimals below exponent =>
    decimalParts whole decimals (if below then -(valueOf exponent : Int) else valueOf exponent)

end Groups

/-- The sign and the digits of the exponent at the end of a decimal number. -/
def finalExponent? : List Char → Option (Bool × List Nat)
  | [] => some (false, [])
  | c :: rest =>
    if c = 'e' || c = 'E' then
      let (negative, unsigned) := splitSign rest
      match digitGroup? unsigned with
      | some (digits, []) => some (negative, digits)
      | _ => none
    else none

/-- An unsigned number: digits, then either a slash and the denominator, or a point and decimals
and then an exponent. Digits may be missing on one side of the point. -/
def groups? (text : List Char) : Option Groups :=
  let decimal (whole decimals : List Nat) (after : List Char) : Option Groups :=
    (finalExponent? after).map fun (below, exponent) => .decimal whole decimals below exponent
  match digitGroup? text with
  | some (whole, '/' :: rest) =>
    match digitGroup? rest with
    | some (digits, []) => some (.ratio whole digits)
    | _ => none
  | some (whole, '.' :: rest) =>
    match digitGroup? rest with
    | some (decimals, after) => decimal whole decimals after
    | none => decimal whole [] rest
  | some (whole, after) => decimal whole [] after
  | none =>
    match text with
    | '.' :: rest =>
      match digitGroup? rest with
      | some (decimals, after) => decimal [] decimals after
      | none => none
    | _ => none

/-- No group of digits may be too long, whatever the number is. -/
def ofChars (text : List Char) : Except Fault Rat :=
  let (negative, unsigned) := splitSign (Text.trim Text.isBlank text)
  match groups? unsigned with
  | none => .error .notNumeral
  | some groups =>
    let parts := groups.parts
    if groups.all.any (maxDigits < ·.length) then .error .tooManyDigits
    else if parts.denominator = 0 then .error .zeroDenominator
    else .ok (mkRat (if negative then -(parts.numerator : Int) else parts.numerator)
      parts.denominator)

/-- A broken text is no number. -/
def ofText (text : LooseText) : Except Fault Rat :=
  text.chars?.elim (.error .notNumeral) ofChars

end ScorePlayback.Fraction
