/-! Quantities of any length: groups of seven bits, the highest group first, with the top bit set
in every byte but the last. -/

namespace ScorePlayback.Quantity

/-- The groups above the last one. `fuel` bounds their number. -/
def highGroups : Nat → Nat → List UInt8
  | 0, _ => []
  | fuel + 1, value =>
    if value = 0 then []
    else highGroups fuel (value / 128) ++ [(128 + value % 128).toUInt8]

def ofNat (value : Nat) : List UInt8 :=
  highGroups value (value / 128) ++ [(value % 128).toUInt8]

/-- A negative quantity has no bytes. -/
def ofInt : Int → List UInt8
  | .ofNat value => ofNat value
  | .negSucc _ => []

end ScorePlayback.Quantity
