import Mathlib.Algebra.Order.Field.Power
import Mathlib.Algebra.Order.Ring.Rat
import Mathlib.Tactic.Linarith
import Mathlib.Tactic.Ring
import ScorePlayback.Midi.Sheet
import ScorePlayback.Proofs.Numerals

/-! The tempo that a file states. The computation from the beats a minute stays among numbers of
ordinary size, so it comes to an end for every tempo but zero. -/

namespace ScorePlayback

namespace Binary64
open Power

/-- A finite value with all of its 53 bits and an exponent between two bounds. -/
def Normal (low high : Int) (x : Binary64) : Prop :=
  ∃ negative significand exponent, x = .finite negative significand exponent ∧
    leastFull ≤ significand ∧ significand < 2 * leastFull ∧ low ≤ exponent ∧ exponent ≤ high

theorem Normal.isZero_eq_false {low high : Int} {x : Binary64} (normal : x.Normal low high) :
    x.isZero = false := by
  obtain ⟨negative, significand, exponent, rfl, full, -⟩ := normal
  have positive : 0 < leastFull := by decide
  exact beq_eq_false_iff_ne.mpr (by omega)

theorem roundQuotient_bounds {numerator denominator low high : Nat} (positive : 0 < denominator)
    (above : low * denominator ≤ numerator) (below : numerator < high * denominator) :
    low ≤ roundQuotient numerator denominator ∧ roundQuotient numerator denominator ≤ high := by
  have floor : low ≤ numerator / denominator := (Nat.le_div_iff_mul_le positive).mpr above
  have ceiling : numerator / denominator < high := (Nat.div_lt_iff_lt_mul positive).mpr below
  unfold roundQuotient
  dsimp only
  split
  · omega
  · split <;> omega

theorem le_mul_factor_iff {numerator denominator bound : Nat} (exponent : Int) :
    bound * (denominator * factor 2 exponent) ≤ numerator * divisor 2 exponent ↔
      (denominator : ℚ) * bound * 2 ^ exponent ≤ numerator := by
  have positive : (0 : ℚ) < divisor 2 exponent := by
    exact_mod_cast divisor_pos (by decide) exponent
  have scaled : ((bound * (denominator * factor 2 exponent) : Nat) : ℚ) =
      denominator * bound * 2 ^ exponent * divisor 2 exponent := by
    push_cast
    rw [factor_eq_mul_divisor (by decide), Nat.cast_ofNat]
    ring
  rw [← Nat.cast_le (α := ℚ), scaled, Nat.cast_mul, mul_le_mul_iff_left₀ positive]

theorem ratioBelow_iff {numerator denominator bound : Nat} {exponent : Int} :
    ratioBelow numerator denominator bound exponent = true ↔
      numerator * divisor 2 exponent < bound * (denominator * factor 2 exponent) := by
  rw [ratioBelow, decide_eq_true_iff, Nat.mul_comm denominator, Nat.mul_assoc]

/-- A ratio between two powers of two next to each other is known up to a factor of two. -/
private theorem ratio_bounds {numerator denominator : Nat} (above : 0 < numerator)
    (divides : 0 < denominator) (guess : Int)
    (guessed : guess = numerator.log2 - denominator.log2 - 52) :
    (denominator : ℚ) * leastFull * 2 ^ (guess - 1) ≤ numerator ∧
      (numerator : ℚ) < denominator * leastFull * 2 ^ (guess + 1) := by
  have two : (2 : ℚ) ≠ 0 := by norm_num
  have full : (leastFull : ℚ) = 2 ^ (52 : Int) := by norm_num [leastFull]
  have numeratorLow : (2 : ℚ) ^ (numerator.log2 : Int) ≤ numerator := by
    exact_mod_cast Nat.log2_self_le above.ne'
  have numeratorHigh : (numerator : ℚ) < 2 ^ (numerator.log2 + 1 : Int) := by
    exact_mod_cast Nat.lt_log2_self
  have denominatorLow : (2 : ℚ) ^ (denominator.log2 : Int) ≤ denominator := by
    exact_mod_cast Nat.log2_self_le divides.ne'
  have denominatorHigh : (denominator : ℚ) < 2 ^ (denominator.log2 + 1 : Int) := by
    exact_mod_cast Nat.lt_log2_self
  have positive (exponent : Int) : (0 : ℚ) < 2 ^ exponent := zpow_pos (by norm_num) exponent
  constructor
  · calc
      (denominator : ℚ) * leastFull * 2 ^ (guess - 1)
          ≤ 2 ^ (denominator.log2 + 1 : Int) * leastFull * 2 ^ (guess - 1) := by gcongr
      _ = 2 ^ (numerator.log2 : Int) := by
        rw [full, ← zpow_add₀ two, ← zpow_add₀ two]
        congr 1
        omega
      _ ≤ numerator := numeratorLow
  · calc
      (numerator : ℚ) < 2 ^ (numerator.log2 + 1 : Int) := numeratorHigh
      _ = 2 ^ (denominator.log2 : Int) * leastFull * 2 ^ (guess + 1) := by
        rw [full, ← zpow_add₀ two, ← zpow_add₀ two]
        congr 1
        omega
      _ ≤ denominator * leastFull * 2 ^ (guess + 1) := by gcongr

/-- Scaled by its exponent a ratio has 53 bits before the point. -/
private theorem exponentOf_spec {numerator denominator : Nat} (above : 0 < numerator)
    (divides : 0 < denominator) (small : leastExponent + 53 + denominator.log2 ≤ numerator.log2) :
    let exponent := exponentOf numerator denominator
    numerator.log2 - denominator.log2 - 53 ≤ exponent ∧
      exponent ≤ numerator.log2 - denominator.log2 - 52 ∧
      leastFull * (denominator * factor 2 exponent) ≤ numerator * divisor 2 exponent ∧
      numerator * divisor 2 exponent < 2 * leastFull * (denominator * factor 2 exponent) := by
  obtain ⟨low, high⟩ := ratio_bounds above divides _ rfl
  unfold exponentOf
  dsimp only
  generalize found : (numerator.log2 - denominator.log2 - 52 : Int) = guess at low high ⊢
  have doubled (exponent : Int) : (denominator : ℚ) * leastFull * 2 ^ (exponent + 1) =
      denominator * (2 * leastFull : Nat) * 2 ^ exponent := by
    rw [zpow_add₀ (by norm_num)]
    push_cast
    ring
  split
  next below =>
    have most : max leastExponent (guess - 1) = guess - 1 := by omega
    rw [most]
    refine ⟨by omega, by omega, (le_mul_factor_iff _).mpr low, ?_⟩
    rw [← Nat.not_le, le_mul_factor_iff, ← doubled, sub_add_cancel, ← le_mul_factor_iff, Nat.not_le]
    exact ratioBelow_iff.mp below
  next reached =>
    have most : max leastExponent guess = guess := by omega
    rw [most]
    refine ⟨by omega, by omega, ?_, ?_⟩
    · rw [ratioBelow_iff, Nat.not_lt] at reached
      exact reached
    · rw [← Nat.not_le, le_mul_factor_iff, ← doubled, not_le]
      exact high

private theorem ofScaled_normal {significand : Nat} {exponent : Int} (negative : Bool)
    (full : leastFull ≤ significand) (fits : significand ≤ 2 * leastFull)
    (large : exponent + 1 ≤ greatestExponent) :
    (ofScaled negative significand exponent).Normal exponent (exponent + 1) := by
  have positive : 0 < leastFull := by decide
  by_cases carried : significand = 2 * leastFull
  · refine ⟨negative, leastFull, exponent + 1, ?_, Nat.le_refl _, ?_, by omega, Int.le_refl _⟩
    · simp only [ofScaled, if_pos carried]
      exact if_neg (Int.not_lt.mpr large)
    · omega
  · refine ⟨negative, significand, exponent, ?_, full, by omega, Int.le_refl _, by omega⟩
    simp only [ofScaled, if_neg carried]
    exact if_neg (by omega)

theorem Normal.mono {low high low' high' : Int} {x : Binary64} (normal : x.Normal low high)
    (below : low' ≤ low) (above : high ≤ high') : x.Normal low' high' := by
  obtain ⟨negative, significand, exponent, same, full, fits, least, most⟩ := normal
  exact ⟨negative, significand, exponent, same, full, fits, by omega, by omega⟩

/-- A ratio of ordinary size is rounded to a value with all of its bits. -/
theorem ofRatio_normal {numerator denominator : Nat} (low high : Int) (negative : Bool)
    (above : 0 < numerator) (divides : 0 < denominator)
    (least : low + denominator.log2 ≤ numerator.log2)
    (greatest : (numerator.log2 : Int) ≤ high + denominator.log2)
    (small : leastExponent ≤ low - 53) (large : high - 51 ≤ greatestExponent) :
    (ofRatio negative numerator denominator).Normal (low - 53) (high - 51) := by
  obtain ⟨fromBelow, fromAbove, full, fits⟩ := exponentOf_spec above divides (by omega)
  have scale := Nat.mul_pos divides
    (factor_pos (show 0 < 2 by decide) (exponentOf numerator denominator))
  obtain ⟨atLeast, atMost⟩ := roundQuotient_bounds scale full fits
  have inRange : exponentOf numerator denominator + 1 ≤ greatestExponent := by omega
  have scaled := ofScaled_normal negative atLeast atMost inRange
  rw [ofRatio, if_neg above.ne']
  exact scaled.mono (by omega) (by omega)

theorem log2_mul_factor {number : Nat} (positive : 0 < number) (exponent : Int) :
    (number * factor 2 exponent).log2 = number.log2 + exponent.toNat := by
  unfold factor
  induction exponent.toNat with
  | zero => simp
  | succ power ih =>
    have more : 0 < number * Nat.pow 2 power := Nat.mul_pos positive (Nat.pow_pos (by decide))
    have doubled : Nat.pow 2 (power + 1) = Nat.pow 2 power * 2 := rfl
    rw [doubled, ← Nat.mul_assoc, Nat.mul_comm, Nat.log2_two_mul more.ne', ih, Nat.add_assoc]

theorem log2_of_full {significand : Nat} (full : leastFull ≤ significand)
    (fits : significand < 2 * leastFull) : significand.log2 = 52 := by
  unfold leastFull at full fits
  exact (Nat.log2_eq_iff (by omega)).mpr ⟨full, fits⟩

/-- The product of two values with all of their bits has twice as many, or one less. -/
private theorem log2_mul_of_full {first second : Nat} (full : leastFull ≤ first)
    (fits : first < 2 * leastFull) (full' : leastFull ≤ second) (fits' : second < 2 * leastFull) :
    104 ≤ (first * second).log2 ∧ (first * second).log2 < 106 := by
  have least := Nat.mul_le_mul full full'
  have most := Nat.mul_lt_mul'' fits fits'
  have filled : first * second ≠ 0 := by
    unfold leastFull at least
    omega
  exact ⟨(Nat.le_log2 filled).mpr least, (Nat.log2_lt filled).mpr most⟩

theorem div_normal {low high low' high' : Int} {x y : Binary64} (dividend : x.Normal low high)
    (divides : y.Normal low' high') (small : leastExponent ≤ low - high' - 53)
    (large : high - low' - 51 ≤ greatestExponent) :
    (x.div y).Normal (low - high' - 53) (high - low' - 51) := by
  obtain ⟨negative, significand, exponent, rfl, full, fits, least, most⟩ := dividend
  obtain ⟨negative', significand', exponent', rfl, full', fits', least', most'⟩ := divides
  have positive : 0 < leastFull := by decide
  have significant : 0 < significand := by omega
  have significant' : 0 < significand' := by omega
  have numerator := log2_mul_factor significant (exponent - exponent')
  have denominator := log2_mul_factor significant' (-(exponent - exponent'))
  rw [log2_of_full full fits] at numerator
  rw [log2_of_full full' fits', factor_neg] at denominator
  refine ofRatio_normal _ _ _ (Nat.mul_pos significant (factor_pos (by decide) _))
    (Nat.mul_pos significant' (divisor_pos (by decide) _)) ?_ ?_ small large
  all_goals
    rw [numerator, denominator]
    omega

theorem mul_normal {low high low' high' : Int} {x y : Binary64} (first : x.Normal low high)
    (second : y.Normal low' high') (small : leastExponent ≤ low + low' + 51)
    (large : high + high' + 54 ≤ greatestExponent) :
    (x.mul y).Normal (low + low' + 51) (high + high' + 54) := by
  obtain ⟨negative, significand, exponent, rfl, full, fits, least, most⟩ := first
  obtain ⟨negative', significand', exponent', rfl, full', fits', least', most'⟩ := second
  have positive : 0 < leastFull := by decide
  have product : 0 < significand * significand' := Nat.mul_pos (by omega) (by omega)
  obtain ⟨above, below⟩ := log2_mul_of_full full fits full' fits'
  have numerator := log2_mul_factor product (exponent + exponent')
  have denominator := log2_mul_factor Nat.one_pos (-(exponent + exponent'))
  rw [Nat.one_mul, factor_neg] at denominator
  have one : Nat.log2 1 = 0 := by decide
  have normal := ofRatio_normal (low + low' + 104) (high + high' + 105)
    (negative != negative')
    (Nat.mul_pos product (factor_pos (show 0 < 2 by decide) (exponent + exponent')))
    (divisor_pos (show 0 < 2 by decide) (exponent + exponent'))
    (by rw [numerator, denominator]; omega) (by rw [numerator, denominator]; omega)
    (by omega) (by omega)
  exact normal.mono (by omega) (by omega)

theorem ofInt_normal (number : Nat) (high : Int) (positive : 0 < number)
    (bounded : number.log2 ≤ high) (large : high - 51 ≤ greatestExponent) :
    (ofInt number).Normal (-53) (high - 51) := by
  unfold ofInt
  rw [Int.natAbs_natCast]
  have one : Nat.log2 1 = 0 := by decide
  exact ofRatio_normal 0 high _ positive Nat.one_pos (by omega) (by omega) (by decide) large

theorem quotient_eq_ok {low high : Int} {x y : Binary64} (normal : y.Normal low high) :
    x.quotient y = .ok (x.div y) := by
  rw [quotient, normal.isZero_eq_false, if_neg Bool.false_ne_true]

theorem Normal.exists_wholePart {low high : Int} {x : Binary64} (normal : x.Normal low high) :
    ∃ whole, x.wholePart = .ok whole := by
  obtain ⟨negative, significand, exponent, rfl, -⟩ := normal
  exact ⟨_, rfl⟩

theorem Normal.exists_nearestWhole {low high : Int} {x : Binary64} (normal : x.Normal low high) :
    ∃ whole, x.nearestWhole = .ok whole := by
  obtain ⟨negative, significand, exponent, rfl, -⟩ := normal
  exact ⟨_, rfl⟩

end Binary64

namespace Tempo
open Binary64

theorem sixtyMillion_normal : (ofInt 60000000).Normal (-53) (-26) :=
  ofInt_normal 60000000 25 (by decide) (by decide) (by decide)

/-- A rate that is neither minute nor immense is inverted to another one. -/
theorem exists_invertRate {low high : Int} {rate : Binary64} (normal : rate.Normal low high)
    (least : -1041 ≤ low) (most : high ≤ 962) :
    ∃ inverted, invertRate rate = .ok inverted ∧ inverted.Normal (-112 - high) (-70 - low) := by
  have smallest : leastExponent = -1074 := rfl
  have greatest : greatestExponent = 971 := rfl
  have four : (ofInt 4).Normal (-53) (-49) :=
    ofInt_normal 4 2 (by decide) (by decide) (by decide)
  have divided := div_normal sixtyMillion_normal normal (by omega) (by omega)
  have multiplied := mul_normal divided four (by omega) (by omega)
  have inverted := div_normal multiplied four (by omega) (by omega)
  refine ⟨_, ?_, inverted.mono (by omega) (by omega)⟩
  rw [invertRate, quotient_eq_ok normal]
  rfl

/-- The computation of a tempo from the beats a minute comes to an end unless the tempo is zero. -/
theorem exists_statedMicroseconds {value : TempoValue} (nonzero : value ≠ 0) :
    ∃ microseconds, statedMicroseconds value = .ok microseconds := by
  have positive : 0 < value.val := Nat.pos_of_ne_zero fun zero => nonzero (Fin.ext zero)
  have bits : value.val.log2 < 24 := (Nat.log2_lt positive.ne').mpr value.isLt
  have normal : (ofInt value.val).Normal (-53) (-28) :=
    ofInt_normal value.val 23 positive (by omega) (by decide)
  obtain ⟨rate, inverted, moderate⟩ := exists_invertRate normal (by decide) (by decide)
  obtain ⟨whole, ended⟩ :=
    (div_normal sixtyMillion_normal moderate (by decide) (by decide)).exists_wholePart
  refine ⟨whole, ?_⟩
  rw [statedMicroseconds, inverted]
  exact (congrArg (· >>= Binary64.wholePart) (quotient_eq_ok moderate)).trans ended

end Tempo

end ScorePlayback
