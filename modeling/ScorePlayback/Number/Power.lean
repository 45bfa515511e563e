/-! Powers with exponents of either sign, as ratios of naturals. For a negative exponent the factor
is one, for any other the divisor is. -/

namespace ScorePlayback.Power

/-- What a power multiplies by. -/
def factor (base : Nat) (exponent : Int) : Nat := Nat.pow base exponent.toNat

/-- What a power divides by. -/
def divisor (base : Nat) (exponent : Int) : Nat := Nat.pow base (-exponent).toNat

theorem factor_neg (base : Nat) (exponent : Int) :
    factor base (-exponent) = divisor base exponent := rfl

theorem factor_pos {base : Nat} (positive : 0 < base) (exponent : Int) :
    0 < factor base exponent := Nat.pow_pos positive

theorem divisor_pos {base : Nat} (positive : 0 < base) (exponent : Int) :
    0 < divisor base exponent := Nat.pow_pos positive

end ScorePlayback.Power
