import Mathlib.Tactic.FieldSimp
import ScorePlayback.Document.Duration
import ScorePlayback.Proofs.Numerals

/-! Durations as texts. A fraction of a whole note is written as a ratio, with a point or with an
exponent, in digits of any script and with blanks around it. Only the number that is written decides
what is read, as long as no group of digits is too long, and nothing but such a text is read. -/

namespace ScorePlayback

namespace Numeral

namespace DigitGroup

/-- The value of the digits after a point. -/
def fraction (group : DigitGroup) : ℚ := group.value / 10 ^ group.digits.length

end DigitGroup

end Numeral

namespace Fraction
open Numeral

/-- A power of ten at the end of a number. -/
structure Exponent where
  capital : Bool
  sign : Sign
  digits : DigitGroup

namespace Exponent

def mark (exponent : Exponent) : Char := if exponent.capital then 'E' else 'e'

def chars (exponent : Exponent) : List Char :=
  exponent.mark :: (exponent.sign.chars ++ exponent.digits.chars)

def value (exponent : Exponent) : Int := exponent.sign.factor * exponent.digits.value

theorem mark_cases (exponent : Exponent) : exponent.mark = 'e' ∨ exponent.mark = 'E' := by
  unfold mark
  split
  next => exact .inr rfl
  next => exact .inl rfl

theorem mark_ne (exponent : Exponent) {c : Char} (small : c ≠ 'e') (capital : c ≠ 'E') :
    exponent.mark ≠ c := by
  intro same
  rcases exponent.mark_cases with mark | mark
  · exact small (same.symm.trans mark)
  · exact capital (same.symm.trans mark)

end Exponent

def exponentChars (exponent : Option Exponent) : List Char := exponent.elim [] Exponent.chars

def exponentValue (exponent : Option Exponent) : Int := exponent.elim 0 Exponent.value

/-- The sign and the digits of an exponent that may be absent. -/
def exponentDigits (exponent : Option Exponent) : Bool × List Nat :=
  exponent.elim (false, []) fun exponent => (exponent.sign.isMinus, exponent.digits.digits)

/-- A number without its sign. Digits may be missing on one side of a point. -/
inductive Unsigned
  | ratio (numerator denominator : DigitGroup)
  | plain (whole : DigitGroup) (exponent : Option Exponent)
  | pointed (whole : DigitGroup) (decimals : Option DigitGroup) (exponent : Option Exponent)
  | decimal (decimals : DigitGroup) (exponent : Option Exponent)

namespace Unsigned

def chars : Unsigned → List Char
  | ratio numerator denominator => numerator.chars ++ '/' :: denominator.chars
  | plain whole exponent => whole.chars ++ exponentChars exponent
  | pointed whole decimals exponent =>
    whole.chars ++ '.' :: (decimals.elim [] DigitGroup.chars ++ exponentChars exponent)
  | decimal decimals exponent => '.' :: (decimals.chars ++ exponentChars exponent)

/-- What is denoted. A ratio over zero denotes nothing. -/
def value? : Unsigned → Option ℚ
  | ratio numerator denominator =>
    if denominator.value = 0 then none else some (numerator.value / denominator.value)
  | plain whole exponent => some (whole.value * 10 ^ exponentValue exponent)
  | pointed whole decimals exponent =>
    some ((whole.value + decimals.elim 0 DigitGroup.fraction) * 10 ^ exponentValue exponent)
  | decimal decimals exponent => some (decimals.fraction * 10 ^ exponentValue exponent)

/-- The digits without their marks. -/
def groups : Unsigned → Groups
  | ratio numerator denominator => .ratio numerator.digits denominator.digits
  | plain whole exponent =>
    .decimal whole.digits [] (exponentDigits exponent).1 (exponentDigits exponent).2
  | pointed whole decimals exponent =>
    .decimal whole.digits (decimals.elim [] DigitGroup.digits) (exponentDigits exponent).1
      (exponentDigits exponent).2
  | decimal decimals exponent =>
    .decimal [] decimals.digits (exponentDigits exponent).1 (exponentDigits exponent).2

/-- Whether every group of digits is short enough to be read. -/
def isReadable (number : Unsigned) : Bool := number.groups.all.all (·.length ≤ maxDigits)

end Unsigned

/-- A number as a text, with blanks around it. -/
structure Literal where
  front : List Char := []
  sign : Sign := .absent
  number : Unsigned
  back : List Char := []
  blankFront : ∀ c ∈ front, Text.isBlank c = true := by exact List.forall_mem_nil _
  blankBack : ∀ c ∈ back, Text.isBlank c = true := by exact List.forall_mem_nil _

namespace Literal

def chars (literal : Literal) : List Char :=
  literal.front ++ (literal.sign.chars ++ literal.number.chars) ++ literal.back

def text (literal : Literal) : LooseText := .ofChars literal.chars

def value? (literal : Literal) : Option ℚ :=
  literal.number.value?.map (literal.sign.factor * ·)

def isReadable (literal : Literal) : Bool := literal.number.isReadable

end Literal

/-! Numbers read -/

theorem finalExponent?_chars (exponent : Option Exponent) :
    finalExponent? (exponentChars exponent) = some (exponentDigits exponent) := by
  cases exponent with
  | none => rfl
  | some exponent =>
    have unsigned := exponent.digits.splitSign_append []
    have read := digitGroup?_append exponent.digits stops_nil
    rw [List.append_nil] at unsigned read
    have marked : (exponent.mark = 'e' || exponent.mark = 'E') = true := by
      simpa using exponent.mark_cases
    simp only [exponentChars, exponentDigits, Option.elim_some, Exponent.chars, finalExponent?,
      marked, if_true, splitSign_append exponent.sign unsigned, read]

theorem exists_exponent {text : List Char} {read : Bool × List Nat}
    (found : finalExponent? text = some read) : ∃ exponent, text = exponentChars exponent := by
  cases text with
  | nil => exact ⟨none, rfl⟩
  | cons c rest =>
    simp only [finalExponent?, Option.ite_none_right_eq_some] at found
    obtain ⟨marked, found⟩ := found
    obtain ⟨sign, signed⟩ := exists_sign rest
    split at found
    next digits grouped =>
      obtain ⟨group, chars, -⟩ := exists_group grouped
      rw [List.append_nil] at chars
      rw [signed, chars]
      rw [Bool.or_eq_true, decide_eq_true_eq, decide_eq_true_eq] at marked
      rcases marked with rfl | rfl
      · exact ⟨some ⟨false, sign, group⟩, rfl⟩
      · exact ⟨some ⟨true, sign, group⟩, rfl⟩
    next => cases found

theorem exponentChars_ne (exponent : Option Exponent) {c : Char} (small : c ≠ 'e')
    (capital : c ≠ 'E') (rest : List Char) : exponentChars exponent ≠ c :: rest := by
  intro same
  cases exponent with
  | none => cases same
  | some exponent => exact exponent.mark_ne small capital (List.cons.inj same).1

theorem decimalDigit?_mark (exponent : Exponent) : Text.decimalDigit? exponent.mark = none := by
  rcases exponent.mark_cases with mark | mark
  · rw [mark]
    decide
  · rw [mark]
    decide

theorem stops_exponent (exponent : Option Exponent) : Stops (exponentChars exponent) := by
  cases exponent with
  | none => exact stops_nil
  | some exponent =>
    exact stops_cons (decimalDigit?_mark exponent) (exponent.mark_ne (by decide) (by decide)) _

private theorem digitGroup?_exponent (exponent : Option Exponent) :
    digitGroup? (exponentChars exponent) = none := by
  cases exponent with
  | none => rfl
  | some exponent => exact digitGroup?_cons_eq_none (decimalDigit?_mark exponent) _

private theorem groups?_of_final {text after : List Char} {whole : List Nat}
    (read : digitGroup? text = some (whole, after)) (slash : ∀ rest, after ≠ '/' :: rest)
    (point : ∀ rest, after ≠ '.' :: rest) :
    groups? text =
      (finalExponent? after).map fun (below, exponent) => .decimal whole [] below exponent := by
  unfold groups?
  rw [read]
  split
  next rest same =>
    cases same
    exact absurd rfl (slash rest)
  next rest same =>
    cases same
    exact absurd rfl (point rest)
  next same =>
    cases same
    rfl
  next same => cases same

theorem groups?_chars (number : Unsigned) : groups? number.chars = some number.groups := by
  cases number with
  | ratio numerator denominator =>
    have upper := digitGroup?_append numerator
      (stops_cons (c := '/') (by decide) (by decide) denominator.chars)
    have lower := digitGroup?_append denominator stops_nil
    rw [List.append_nil] at lower
    simp only [groups?, Unsigned.chars, upper, lower]
    rfl
  | plain whole exponent =>
    rw [Unsigned.chars, groups?_of_final (digitGroup?_append whole (stops_exponent exponent)),
      finalExponent?_chars]
    · rfl
    · exact exponentChars_ne exponent (by decide) (by decide)
    · exact exponentChars_ne exponent (by decide) (by decide)
  | pointed whole decimals exponent =>
    have read := digitGroup?_append whole (stops_cons (c := '.') (by decide) (by decide)
      (decimals.elim [] DigitGroup.chars ++ exponentChars exponent))
    simp only [groups?, Unsigned.chars, read]
    cases decimals with
    | none =>
      simp only [Option.elim_none, List.nil_append, digitGroup?_exponent, finalExponent?_chars,
        Option.map_some]
      rfl
    | some group =>
      simp only [Option.elim_some, digitGroup?_append group (stops_exponent exponent),
        finalExponent?_chars, Option.map_some]
      rfl
  | decimal decimals exponent =>
    have read := digitGroup?_append decimals (stops_exponent exponent)
    have dot := digitGroup?_cons_eq_none (c := '.') (by decide)
      (decimals.chars ++ exponentChars exponent)
    simp only [groups?, Unsigned.chars, dot, read, finalExponent?_chars, Option.map_some]
    rfl

/-- What is read as an unsigned number is one. -/
theorem exists_unsigned {text : List Char} {groups : Groups}
    (read : groups? text = some groups) : ∃ number : Unsigned, text = number.chars := by
  unfold groups? at read
  split at read
  next whole rest grouped =>
    obtain ⟨numerator, upper, -⟩ := exists_group grouped
    split at read
    next digits lower =>
      obtain ⟨denominator, chars, -⟩ := exists_group lower
      rw [List.append_nil] at chars
      exact ⟨.ratio numerator denominator, by rw [upper, chars, Unsigned.chars]⟩
    next => cases read
  next rest grouped =>
    obtain ⟨front, whole, -⟩ := exists_group grouped
    split at read
    next decimals after behind =>
      obtain ⟨group, chars, -⟩ := exists_group behind
      obtain ⟨value, final, -⟩ := Option.map_eq_some_iff.mp read
      obtain ⟨exponent, rfl⟩ := exists_exponent final
      exact ⟨.pointed front (some group) exponent, by rw [whole, chars]; rfl⟩
    next =>
      obtain ⟨value, final, -⟩ := Option.map_eq_some_iff.mp read
      obtain ⟨exponent, rfl⟩ := exists_exponent final
      exact ⟨.pointed front none exponent, whole⟩
  next whole after _ _ grouped =>
    obtain ⟨front, whole, -⟩ := exists_group grouped
    obtain ⟨value, final, -⟩ := Option.map_eq_some_iff.mp read
    obtain ⟨exponent, rfl⟩ := exists_exponent final
    exact ⟨.plain front exponent, whole⟩
  next =>
    split at read
    next rest =>
      split at read
      next decimals after behind =>
        obtain ⟨group, chars, -⟩ := exists_group behind
        obtain ⟨value, final, -⟩ := Option.map_eq_some_iff.mp read
        obtain ⟨exponent, rfl⟩ := exists_exponent final
        exact ⟨.decimal group exponent, congrArg ('.' :: ·) chars⟩
      next => cases read
    next => cases read

/-! Values -/

namespace Parts

def value (parts : Parts) : ℚ := parts.numerator / parts.denominator

end Parts

private theorem denominator_decimalParts_pos (whole decimals : List Nat) (exponent : Int) :
    0 < (decimalParts whole decimals exponent).denominator :=
  Nat.mul_pos Nat.one_pos (Power.divisor_pos (by decide) _)

/-- The digits before a point count as they stand, those after it as tenths and so on. -/
theorem value_decimalParts (whole decimals : List Nat) (exponent : Int) :
    (decimalParts whole decimals exponent).value =
      (valueOf whole + valueOf decimals / 10 ^ decimals.length) * 10 ^ exponent := by
  have positive : (0 : ℚ) < Power.divisor 10 (exponent - decimals.length) := by
    exact_mod_cast Power.divisor_pos (by decide) (exponent - decimals.length)
  have ten : (10 : ℚ) ≠ 0 := by norm_num
  rw [Parts.value, decimalParts, Parts.scale, valueOf_append]
  push_cast
  rw [Power.factor_eq_mul_divisor (by decide), Nat.cast_ofNat, zpow_sub₀ ten, zpow_natCast]
  field_simp

theorem parts_decimal (whole decimals : List Nat) (exponent : Option Exponent) :
    (Groups.decimal whole decimals (exponentDigits exponent).1 (exponentDigits exponent).2).parts =
      decimalParts whole decimals (exponentValue exponent) := by
  cases exponent with
  | none => rfl
  | some exponent => exact congrArg (decimalParts whole decimals) (exponent.sign.ite_isMinus _)

theorem Unsigned.value?_eq (number : Unsigned) :
    number.value? =
      if number.groups.parts.denominator = 0 then none else some number.groups.parts.value := by
  have above (whole decimals : List Nat) (exponent : Int) :
      (decimalParts whole decimals exponent).denominator ≠ 0 :=
    (denominator_decimalParts_pos whole decimals exponent).ne'
  cases number with
  | ratio numerator denominator => rfl
  | plain whole exponent =>
    rw [groups, parts_decimal, if_neg (above _ _ _), value_decimalParts, value?, DigitGroup.value]
    simp [valueOf]
  | pointed whole decimals exponent =>
    rw [groups, parts_decimal, if_neg (above _ _ _), value_decimalParts, value?, DigitGroup.value]
    cases decimals with
    | none => simp [valueOf]
    | some group => rfl
  | decimal decimals exponent =>
    rw [groups, parts_decimal, if_neg (above _ _ _), value_decimalParts, value?,
      DigitGroup.fraction, DigitGroup.value]
    simp [valueOf]

/-! Literals -/

theorem isBlank_exponentChars (exponent : Option Exponent) :
    ∀ c ∈ exponentChars exponent, Text.isBlank c = false := by
  cases exponent with
  | none => exact nofun
  | some exponent =>
    refine List.forall_mem_cons.mpr ⟨?_, List.forall_mem_append.mpr ⟨?_, ?_⟩⟩
    · rcases exponent.mark_cases with mark | mark
      · rw [mark]
        decide
      · rw [mark]
        decide
    · exact fun c => Sign.isBlank_of_mem
    · exact fun c => DigitGroup.isBlank_of_mem

private theorem Unsigned.isBlank_chars (number : Unsigned) :
    ∀ c ∈ number.chars, Text.isBlank c = false := by
  have group (digits : DigitGroup) : ∀ c ∈ digits.chars, Text.isBlank c = false :=
    fun c => DigitGroup.isBlank_of_mem
  cases number with
  | ratio numerator denominator =>
    refine List.forall_mem_append.mpr ⟨group numerator, ?_⟩
    exact List.forall_mem_cons.mpr ⟨by decide, group denominator⟩
  | plain whole exponent =>
    exact List.forall_mem_append.mpr ⟨group whole, isBlank_exponentChars exponent⟩
  | pointed whole decimals exponent =>
    refine List.forall_mem_append.mpr ⟨group whole, List.forall_mem_cons.mpr ⟨by decide, ?_⟩⟩
    refine List.forall_mem_append.mpr ⟨?_, isBlank_exponentChars exponent⟩
    cases decimals with
    | none => exact nofun
    | some digits => exact group digits
  | decimal decimals exponent =>
    refine List.forall_mem_cons.mpr ⟨by decide, ?_⟩
    exact List.forall_mem_append.mpr ⟨group decimals, isBlank_exponentChars exponent⟩

private theorem Unsigned.splitSign_chars (number : Unsigned) :
    splitSign number.chars = (false, number.chars) := by
  cases number with
  | ratio numerator denominator => exact numerator.splitSign_append _
  | plain whole exponent => exact whole.splitSign_append _
  | pointed whole decimals exponent => exact whole.splitSign_append _
  | decimal decimals exponent => exact splitSign_cons (by decide) (by decide) _

namespace Literal

private theorem ofChars_eq (literal : Literal) :
    ofChars literal.chars =
      if literal.isReadable then literal.value?.elim (.error .zeroDenominator) .ok
      else .error .tooManyDigits := by
  have dark : ∀ c ∈ literal.sign.chars ++ literal.number.chars, Text.isBlank c = false := by
    refine List.forall_mem_append.mpr ⟨?_, literal.number.isBlank_chars⟩
    intro c member
    exact Sign.isBlank_of_mem member
  have overlong : literal.number.groups.all.any (maxDigits < ·.length) = !literal.isReadable := by
    rw [isReadable, Unsigned.isReadable, List.not_all_eq_any_not]
    simp only [← decide_not, not_le]
  rw [ofChars, chars, Text.trim_surrounded literal.blankFront dark literal.blankBack,
    splitSign_append literal.sign literal.number.splitSign_chars, value?, Unsigned.value?_eq]
  simp only [groups?_chars, overlong]
  cases literal.isReadable with
  | false => rfl
  | true =>
    simp only [Bool.not_true, Bool.false_eq_true, if_false, if_true]
    split
    next zero => rfl
    next =>
      rw [Sign.ite_isMinus, Rat.mkRat_eq_div, Option.map_some, Option.elim_some, Parts.value]
      push_cast
      rw [mul_div_assoc]

end Literal

/-- A text that is read as a number at all, be it as a ratio over zero, is a literal. -/
private theorem exists_literal {text : List Char} (read : ofChars text ≠ .error .notNumeral) :
    ∃ literal : Literal, text = literal.chars := by
  obtain ⟨front, back, surrounded, blankFront, blankBack⟩ := Text.exists_trim Text.isBlank text
  obtain ⟨sign, signed⟩ := exists_sign (Text.trim Text.isBlank text)
  cases split : splitSign (Text.trim Text.isBlank text) with
  | mk negative unsigned =>
    rw [split] at signed
    cases found : groups? unsigned with
    | none =>
      refine absurd ?_ read
      rw [ofChars, split]
      simp only [found]
    | some parts =>
      obtain ⟨number, rfl⟩ := exists_unsigned found
      refine ⟨⟨front, sign, number, back, blankFront, blankBack⟩, ?_⟩
      rw [Literal.chars, ← signed]
      exact surrounded

end Fraction

namespace Document
open Fraction

theorem ofText_literal (literal : Literal) :
    ofText literal.text =
      if literal.isReadable then literal.value?.elim (.error .zeroDenominator) .ok
      else .error .tooManyDigits := by
  rw [ofText, Literal.text, LooseText.chars?_ofChars, Option.elim_some, literal.ofChars_eq]

theorem ofText_eq_notNumeral_iff {text : LooseText} :
    ofText text = .error .notNumeral ↔ ∀ literal : Literal, literal.text ≠ text := by
  constructor
  · intro read literal same
    rw [← same, ofText_literal] at read
    split at read
    next =>
      cases denotes : literal.value? with
      | none => simp [denotes] at read
      | some number => simp [denotes] at read
    next => cases read
  · intro other
    unfold ofText
    cases whole : text.chars? with
    | none => rfl
    | some chars =>
      by_contra read
      obtain ⟨literal, rfl⟩ := exists_literal read
      exact other literal (LooseText.eq_ofChars_of_chars? whole).symm

private theorem eq_natCast_iff (number : ℚ) (count : Nat) :
    number = count ↔ number.den = 1 ∧ ¬ number.num < 0 ∧ number.num.toNat = count := by
  constructor
  · rintro rfl
    exact ⟨Rat.den_natCast count, by simp, by simp⟩
  · rintro ⟨single, nonneg, rfl⟩
    have whole := (Rat.den_eq_one_iff number).mp single
    have same : (number.num.toNat : Int) = number.num := Int.toNat_of_nonneg (not_lt.mp nonneg)
    rw [← whole]
    exact_mod_cast same.symm

theorem units_eq_ok_iff {literal : Literal} {number : ℚ} (readable : literal.isReadable = true)
    (denotes : literal.value? = some number) (count : Nat) :
    units (.string literal.text) = .ok count ↔ 384 * number = count := by
  have scaled : 384 * number = number * (wholeUnits : ℚ) := mul_comm _ _
  rw [scaled, eq_natCast_iff, units, ofText_literal, if_pos readable, denotes]
  simp only [Option.elim_some]
  split
  next fine => exact ⟨nofun, fun whole => absurd whole.1 fine⟩
  next single =>
    split
    next negative => exact ⟨nofun, fun whole => absurd negative whole.2.1⟩
    next nonneg =>
      refine ⟨fun read => ⟨not_not.mp single, nonneg, ?_⟩, fun whole => ?_⟩
      · cases read
        rfl
      · rw [whole.2.2]

theorem exists_fault_of_units_ne {value : Value} (nothing : ∀ count, units value ≠ .ok count) :
    ∃ error, units value = .error error := by
  cases read : units value with
  | error error => exact ⟨error, rfl⟩
  | ok count => exact absurd read (nothing count)

theorem units_overZero {literal : Literal} (readable : literal.isReadable = true)
    (nothing : literal.value? = none) :
    units (.string literal.text) =
      .error (.duration (.string literal.text) (some .zeroDenominator)) := by
  rw [units, ofText_literal, if_pos readable, nothing, Option.elim_none]

theorem units_overlong {literal : Literal} (overlong : literal.isReadable = false) :
    units (.string literal.text) =
      .error (.duration (.string literal.text) (some .tooManyDigits)) := by
  rw [units, ofText_literal, if_neg (Bool.eq_false_iff.mp overlong)]

private theorem units_of_not_literal {text : LooseText}
    (other : ∀ literal : Literal, literal.text ≠ text) :
    units (.string text) = .error (.duration (.string text) (some .notNumeral)) := by
  rw [units, ofText_eq_notNumeral_iff.mpr other]

private theorem units_natCast (count : Nat) : units (.int count) = .ok count := by
  rw [units, if_neg (Int.not_lt.mpr (Int.natCast_nonneg count)), Int.toNat_natCast]

/-- What is read is decided by the number that is written. -/
private theorem toOption_units_congr {first second : Literal} (readable : first.isReadable = true)
    (readable' : second.isReadable = true) (same : first.value? = second.value?) :
    (units (.string first.text)).toOption = (units (.string second.text)).toOption := by
  cases denotes : first.value? with
  | none =>
    rw [units_overZero readable denotes, units_overZero readable' (same.symm.trans denotes)]
    rfl
  | some number =>
    have agree (count : Nat) :
        units (.string first.text) = .ok count ↔ units (.string second.text) = .ok count :=
      (units_eq_ok_iff readable denotes count).trans
        (units_eq_ok_iff readable' (same.symm.trans denotes) count).symm
    cases read : units (.string first.text) with
    | ok count => rw [(agree count).mp read]
    | error error =>
      have nothing (count : Nat) : units (.string second.text) ≠ .ok count := by
        intro found
        cases read.symm.trans ((agree count).mpr found)
      obtain ⟨other, refused⟩ := exists_fault_of_units_ne nothing
      rw [refused]
      rfl

/-- A literal stands for 384 units a whole note, if that is a number of units and no group of its
digits is too long. A group too long and a ratio over zero are refused, and so is every other text;
what else one number is written as makes no difference. -/
theorem units_written (literal : Literal) :
    (literal.isReadable = true → ∀ number : ℚ, literal.value? = some number →
      (∀ count : Nat, units (.string literal.text) = .ok count ↔ 384 * number = count) ∧
      ((∀ count : Nat, 384 * number ≠ count) →
        ∃ error, units (.string literal.text) = .error error)) ∧
    (literal.isReadable = true → literal.value? = none →
      units (.string literal.text) =
        .error (.duration (.string literal.text) (some .zeroDenominator))) ∧
    (literal.isReadable = false →
      units (.string literal.text) =
        .error (.duration (.string literal.text) (some .tooManyDigits))) ∧
    (∀ other : Literal, literal.isReadable = true → other.isReadable = true →
      literal.value? = other.value? →
      (units (.string literal.text)).toOption = (units (.string other.text)).toOption) ∧
    (∀ count : Nat, units (.int count) = .ok count ∧
      (literal.isReadable = true → literal.value? = some (count / 384 : ℚ) →
        units (.string literal.text) = .ok count)) ∧
    ∀ text : LooseText, (∀ written : Literal, written.text ≠ text) →
      units (.string text) = .error (.duration (.string text) (some .notNumeral)) := by
  refine ⟨?written, ?overZero, ?overlong, ?alike, ?whole, ?other⟩
  case written =>
    intro readable number denotes
    refine ⟨units_eq_ok_iff readable denotes, ?_⟩
    intro fine
    apply exists_fault_of_units_ne
    intro count read
    exact fine count ((units_eq_ok_iff readable denotes count).mp read)
  case overZero =>
    intro readable nothing
    exact units_overZero readable nothing
  case overlong =>
    intro overlong
    exact units_overlong overlong
  case alike =>
    intro other readable readable' same
    exact toOption_units_congr readable readable' same
  case whole =>
    intro count
    refine ⟨units_natCast count, ?_⟩
    intro readable denotes
    apply (units_eq_ok_iff readable denotes count).mpr
    field_simp
  case other =>
    intro text other
    exact units_of_not_literal other

/-- Twelve and a half tenths, with an underscore, a digit of another script and a wide blank. -/
def mixedScripts : Literal where
  front := ['\u2003']
  sign := .plus
  number := .pointed (.next ⟨'1', 1, by decide⟩ true (.last ⟨'2', 2, by decide⟩))
    (some (.last ⟨'\u0665', 5, by decide⟩)) (some ⟨false, .minus, .last ⟨'1', 1, by decide⟩⟩)
  blankFront := List.forall_mem_singleton.mpr (by decide)

def shortRatio (numerator denominator : Numeral.Digit) : Literal where
  number := .ratio (.last numerator) (.last denominator)

theorem units_written_mixedScripts :
    mixedScripts.text = "\u2003+1_2.\u0665e-1" ∧
      units (.string mixedScripts.text) = .ok 480 ∧
      (units (.string mixedScripts.text)).toOption = (units (.string "5/4")).toOption ∧
      units (.string "5/0") = .error (.duration (.string "5/0") (some .zeroDenominator)) ∧
      units (.string "5 / 4") = .error (.duration (.string "5 / 4") (some .notNumeral)) := by
  obtain ⟨-, -, -, alike, whole, other⟩ := units_written mixedScripts
  obtain ⟨-, overZero, -⟩ :=
    units_written (shortRatio ⟨'5', 5, by decide⟩ ⟨'0', 0, by decide⟩)
  have mixed : mixedScripts.value? = some (5 / 4) := by decide +kernel
  have quarters : (shortRatio ⟨'5', 5, by decide⟩ ⟨'4', 4, by decide⟩).value? = some (5 / 4) := by
    decide +kernel
  have count : (5 / 4 : ℚ) = (480 : Nat) / 384 := by norm_num
  refine ⟨by decide, ?_, ?_, ?_, ?_⟩
  · apply (whole 480).2 (by decide)
    rw [mixed, count]
  · exact alike (shortRatio _ _) (by decide) (by decide) (mixed.trans quarters.symm)
  · exact overZero (by decide) (by decide)
  · exact other "5 / 4" (ofText_eq_notNumeral_iff.mp (by decide))

/-- A digit with so many zeros before it. -/
def zerosBefore (digit : Numeral.Digit) : Nat → Numeral.DigitGroup
  | 0 => .last digit
  | zeros + 1 => .next ⟨'0', 0, by decide⟩ false (zerosBefore digit zeros)

theorem digits_zerosBefore (digit : Numeral.Digit) (zeros : Nat) :
    (zerosBefore digit zeros).digits = List.replicate zeros 0 ++ [digit.value] := by
  induction zeros with
  | zero => rfl
  | succ zeros ih =>
    rw [zerosBefore, Numeral.DigitGroup.digits, ih, List.replicate_succ, List.cons_append]

private theorem value_zerosBefore (digit : Numeral.Digit) (zeros : Nat) :
    (zerosBefore digit zeros).value = digit.value := by
  have nothing : Numeral.valueOf (List.replicate zeros 0) = 0 := by
    induction zeros with
    | zero => rfl
    | succ zeros ih => rw [List.replicate_succ', Numeral.valueOf_concat, ih]
  rw [Numeral.DigitGroup.value, digits_zerosBefore, Numeral.valueOf_concat, nothing, Nat.zero_mul,
    Nat.zero_add]

/-- A quarter whose numerator has one digit too many, a one behind zeros. -/
def paddedQuarter : Literal where
  number := .ratio (zerosBefore ⟨'1', 1, by decide⟩ maxDigits) (.last ⟨'4', 4, by decide⟩)

/-- A quarter of a whole note is not read with so many zeros before it, and so not every literal
stands for 384 units a whole note. -/
theorem units_paddedQuarter :
    units (.string "1/4") = .ok 96 ∧
      units (.string paddedQuarter.text) =
        .error (.duration (.string paddedQuarter.text) (some .tooManyDigits)) ∧
      ¬ ∀ (literal : Literal) (number : ℚ), literal.value? = some number →
        ∀ count : Nat, units (.string literal.text) = .ok count ↔ 384 * number = count := by
  have overlong : paddedQuarter.isReadable = false := by
    simp [paddedQuarter, Literal.isReadable, Unsigned.isReadable, Unsigned.groups, Groups.all,
      digits_zerosBefore]
  have quarter : paddedQuarter.value? = some (1 / 4) := by
    have four : (Numeral.DigitGroup.last ⟨'4', 4, by decide⟩).value = 4 := rfl
    simp [paddedQuarter, Literal.value?, Unsigned.value?, value_zerosBefore, four,
      Numeral.Sign.factor]
  have short : (shortRatio ⟨'1', 1, by decide⟩ ⟨'4', 4, by decide⟩).value? = some (1 / 4) := by
    decide +kernel
  have refused := units_overlong overlong
  refine ⟨(units_eq_ok_iff (by decide) short 96).mpr (by norm_num), refused, ?_⟩
  intro claim
  cases refused.symm.trans ((claim paddedQuarter (1 / 4) quarter 96).mpr (by norm_num))

end Document

end ScorePlayback
