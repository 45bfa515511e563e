import ScorePlayback.Number.Binary64
import ScorePlayback.Number.Numeral

/-! Floating-point values read from text: a decimal number with an optional exponent, or the name
of an infinity or of the value that is no number. -/

namespace ScorePlayback.Binary64
open Numeral

/-- A sign and digits after an exponent mark; no exponent is zero. -/
def exponent? : List Char → Option (Int × List Char)
  | c :: rest =>
    if c = 'e' || c = 'E' then
      let (negative, unsigned) := splitSign rest
      (digitGroup? unsigned).map fun (digits, after) => (withSign negative (valueOf digits), after)
    else some (0, c :: rest)
  | [] => some (0, [])

/-- Digits before and after the point; there must be some on either side. -/
def mantissa? (text : List Char) : Option (List Nat × List Nat × List Char) :=
  match digitGroup? text with
  | some (whole, '.' :: rest) =>
    match digitGroup? rest with
    | some (decimals, after) => some (whole, decimals, after)
    | none => some (whole, [], rest)
  | some (whole, after) => some (whole, [], after)
  | none =>
    match text with
    | '.' :: rest => (digitGroup? rest).map fun (decimals, after) => ([], decimals, after)
    | _ => none

def ofUnsigned? (negative : Bool) (text : List Char) : Option Binary64 :=
  let name := text.map Char.toLower
  if name = "inf".toList || name = "infinity".toList then some (.infinite negative)
  else if name = "nan".toList then some .nan
  else do
    let (whole, decimals, afterMantissa) ← mantissa? text
    let (exponent, rest) ← exponent? afterMantissa
    if rest.isEmpty then
      some (ofDecimal negative (valueOf (whole ++ decimals)) (exponent - decimals.length))
    else none

def ofChars? (text : List Char) : Option Binary64 :=
  let (negative, unsigned) := splitSign (Text.trim isBlankAround text)
  ofUnsigned? negative unsigned

/-- A broken text is no number. -/
def ofText? (text : LooseText) : Option Binary64 := text.chars?.bind ofChars?

end ScorePlayback.Binary64
