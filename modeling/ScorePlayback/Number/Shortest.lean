import ScorePlayback.Number.Binary64

/-! The text of a floating-point value: the fewest digits that read back as the same value, of
these the nearest, positionally from 0.0001 to below ten to the sixteenth. -/

namespace ScorePlayback.Binary64
open Power

/-- Compares `a * 10 ^ i` with `b * 2 ^ j`. -/
def compareScaled (a : Nat) (i : Int) (b : Nat) (j : Int) : Ordering :=
  compare (a * factor 10 i * divisor 2 j) (b * factor 2 j * divisor 10 i)

/-- Whether `digits * 10 ^ scale` lies among the reals that round to `m * 2 ^ e`. The neighbour
below a power of two is half as far as the one above, and the ends belong to even values. -/
def readsBack (m : Nat) (e : Int) (digits : Nat) (scale : Int) : Bool :=
  let low := if m = leastFull && leastExponent < e then 4 * m - 1 else 4 * m - 2
  let fromLow := compareScaled digits scale low (e - 2)
  let fromHigh := compareScaled digits scale (4 * m + 2) (e - 2)
  let even := m % 2 == 0
  (fromLow == .gt || even && fromLow == .eq) && (fromHigh == .lt || even && fromHigh == .eq)

/-- The value's neighbour on the grid of `10 ^ scale` that reads back, and the nearer of two. -/
def onGrid? (m : Nat) (e scale : Int) : Option Nat :=
  let numerator := m * factor 2 e * divisor 10 scale
  let denominator := divisor 2 e * factor 10 scale
  let below := numerator / denominator
  let nearest := roundQuotient numerator denominator
  let other := if nearest = below then below + 1 else below
  if readsBack m e nearest scale then some nearest
  else if readsBack m e other scale then some other
  else none

/-- The least `k` with `m * 2 ^ e < 10 ^ k`, looked for upward from below. -/
def decimalOrder (m : Nat) (e : Int) : Int :=
  let start : Int := ((m.log2 + e) * 3) / 10 - 2
  let above (step : Nat) : Bool := compareScaled 1 (start + step) m e == .gt
  start + ((List.range 8).find? above).getD 8

/-- Digits and scale, without trailing zeros. -/
def stripZeros : Nat → Nat → Int → Nat × Int
  | 0, digits, scale => (digits, scale)
  | fuel + 1, digits, scale =>
    if digits % 10 = 0 && digits != 0 then stripZeros fuel (digits / 10) (scale + 1)
    else (digits, scale)

/-- The fewest digits that read back, with their scale. Seventeen always do. -/
def shortest (m : Nat) (e : Int) : Nat × Int :=
  let order := decimalOrder m e
  let withDigits (count : Nat) : Option (Nat × Int) :=
    let scale := order - (count + 1 : Nat)
    (onGrid? m e scale).map (·, scale)
  match (List.range 17).findSome? withDigits with
  | some (digits, scale) => stripZeros 20 digits scale
  | none => (m * factor 2 e * divisor 5 e, min e 0)

def exponentText (exponent : Int) : String :=
  let magnitude := toString exponent.natAbs
  (if exponent < 0 then "-" else "+") ++ (if magnitude.length < 2 then "0" else "") ++ magnitude

/-- Lays out `digits * 10 ^ scale`. A positional number keeps one decimal. -/
def layOut (digits : Nat) (scale : Int) : String :=
  let text := (toString digits).toList
  let order := text.length + scale
  if -4 < order && order ≤ 16 then
    if order ≤ 0 then
      "0." ++ .ofList (List.replicate (-order).toNat '0' ++ text)
    else
      let padded := text ++ List.replicate (order.toNat - text.length) '0'
      let decimals := padded.drop order.toNat
      .ofList (padded.take order.toNat ++ '.' :: (if decimals.isEmpty then ['0'] else decimals))
  else
    let tail := text.tail
    .ofList (text.take 1 ++ (if tail.isEmpty then [] else '.' :: tail))
      ++ "e" ++ exponentText (order - 1)

def text : Binary64 → String
  | nan => "nan"
  | infinite negative => if negative then "-inf" else "inf"
  | finite negative m e =>
    let sign := if negative then "-" else ""
    if m = 0 then sign ++ "0.0"
    else
      let (digits, scale) := shortest m e
      sign ++ layOut digits scale

end ScorePlayback.Binary64
