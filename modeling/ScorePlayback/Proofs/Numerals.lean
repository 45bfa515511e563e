import Mathlib.Algebra.Order.Field.Power
import Mathlib.Algebra.Order.Ring.Rat
import Mathlib.Data.List.Induction
import Mathlib.Data.List.TakeWhile
import Mathlib.Tactic.Ring
import ScorePlayback.Number.Numeral
import ScorePlayback.Number.Power

/-! Numbers as they are written: powers with exponents of either sign, digits of any script in
groups, and signs. Main statement: a group of digits is read from the front of a text exactly if it
stands there. -/

namespace ScorePlayback

namespace Power

theorem factor_eq_mul_divisor {base : Nat} (positive : 0 < base) (exponent : Int) :
    (factor base exponent : ℚ) = (base : ℚ) ^ exponent * divisor base exponent := by
  have nonzero : (base : ℚ) ≠ 0 := by exact_mod_cast positive.ne'
  have exponents : (exponent.toNat : Int) = exponent + (-exponent).toNat := by omega
  unfold factor divisor
  rw [Nat.pow_eq, Nat.pow_eq, Nat.cast_pow, Nat.cast_pow, ← zpow_natCast, ← zpow_natCast,
    ← zpow_add₀ nonzero, exponents]

end Power

namespace Text

theorem exists_zero_of_decimalDigit? {c : Char} {digit : Nat}
    (read : decimalDigit? c = some digit) :
    ∃ first ∈ decimalZeros, first ≤ c.toNat ∧ c.toNat ≤ first + 9 := by
  obtain ⟨first, found, -⟩ := Option.map_eq_some_iff.mp read
  have near := List.find?_some found
  rw [Bool.and_eq_true, decide_eq_true_eq, decide_eq_true_eq] at near
  exact ⟨first, List.mem_of_find?_eq_some found, near⟩

theorem decimalDigit?_lt {c : Char} {digit : Nat} (read : decimalDigit? c = some digit) :
    digit < 10 := by
  obtain ⟨first, found, rfl⟩ := Option.map_eq_some_iff.mp read
  have near := List.find?_some found
  rw [Bool.and_eq_true, decide_eq_true_eq, decide_eq_true_eq] at near
  omega

/-- No digit is blank. -/
theorem isBlank_of_decimalDigit? {c : Char} {digit : Nat} (read : decimalDigit? c = some digit) :
    isBlank c = false := by
  have apart : ∀ first ∈ decimalZeros, ∀ range ∈ blankRanges,
      first + 9 < range.1 ∨ range.2 < first := by decide
  obtain ⟨first, member, low, high⟩ := exists_zero_of_decimalDigit? read
  apply List.any_eq_false.mpr
  intro range among
  have := apart first member range among
  rw [Bool.and_eq_true, decide_eq_true_eq, decide_eq_true_eq]
  omega

section Trim
variable {α : Type} {blank : α → Bool}

theorem trim_surrounded {before core after : List α} (front : ∀ c ∈ before, blank c = true)
    (inside : ∀ c ∈ core, blank c = false) (back : ∀ c ∈ after, blank c = true) :
    trim blank (before ++ core ++ after) = core := by
  have kept : ∀ {text : List α}, (∀ c ∈ text, blank c = false) → text.dropWhile blank = text := by
    intro text dark
    cases text with
    | nil => rfl
    | cons c rest => exact List.dropWhile_cons_of_neg (by simp [dark c List.mem_cons_self])
  unfold trim
  rw [List.append_assoc, List.dropWhile_append_of_pos front]
  cases core with
  | nil =>
    rw [List.nil_append, List.dropWhile_eq_nil_iff.mpr back]
    rfl
  | cons c rest =>
    have dark := inside c List.mem_cons_self
    rw [List.cons_append, List.dropWhile_cons_of_neg (by simp [dark]), ← List.cons_append,
      List.reverse_append, List.dropWhile_append_of_pos, kept, List.reverse_reverse]
    · intro other member
      exact inside other (List.mem_reverse.mp member)
    · intro other member
      exact back other (List.mem_reverse.mp member)

theorem exists_trim (blank : α → Bool) (text : List α) :
    ∃ before after, text = before ++ trim blank text ++ after ∧
      (∀ c ∈ before, blank c = true) ∧ ∀ c ∈ after, blank c = true := by
  let rest := (text.dropWhile blank).reverse
  refine ⟨text.takeWhile blank, (rest.takeWhile blank).reverse, ?_, ?_, ?_⟩
  · have split : rest.reverse = trim blank text ++ (rest.takeWhile blank).reverse := by
      rw [trim, ← List.reverse_append, List.takeWhile_append_dropWhile]
    rw [List.append_assoc, ← split, List.reverse_reverse, List.takeWhile_append_dropWhile]
  · intro c member
    exact List.mem_takeWhile_imp member
  · intro c member
    exact List.mem_takeWhile_imp (List.mem_reverse.mp member)

/-- What is not blank is kept, and blanks before it are not. -/
theorem exists_trim_append {before core : List α} (front : ∀ c ∈ before, blank c = true)
    (inside : ∀ c ∈ core, blank c = false) (filled : core ≠ []) (rest : List α) :
    ∃ more, trim blank (before ++ core ++ rest) = core ++ more := by
  have kept {text : List α} (dark : ∀ c ∈ text, blank c = false) (nonempty : text ≠ [])
      (others : List α) : (text ++ others).dropWhile blank = text ++ others := by
    obtain ⟨first, more, rfl⟩ := List.exists_cons_of_ne_nil nonempty
    exact List.dropWhile_cons_of_neg (by simp [dark first List.mem_cons_self])
  have mirrored : ∀ c ∈ core.reverse, blank c = false := fun c member =>
    inside c (List.mem_reverse.mp member)
  rw [trim, List.append_assoc, List.dropWhile_append_of_pos front, kept inside filled,
    List.reverse_append, List.dropWhile_append]
  split
  next =>
    have whole := kept mirrored (List.reverse_ne_nil_iff.mpr filled) []
    rw [List.append_nil] at whole
    rw [whole, List.reverse_reverse]
    exact ⟨[], (List.append_nil core).symm⟩
  next =>
    rw [List.reverse_append, List.reverse_reverse]
    exact ⟨_, rfl⟩

/-- A text that does not begin with a blank keeps its first element. -/
theorem exists_trim_cons {first : α} (dark : blank first = false) (rest : List α) :
    ∃ more, trim blank (first :: rest) = first :: more :=
  exists_trim_append (List.forall_mem_nil _) (List.forall_mem_singleton.mpr dark)
    (List.cons_ne_nil first []) rest

end Trim

end Text

namespace Numeral
open Text

/-- A digit of any script. -/
structure Digit where
  char : Char
  value : Nat
  read : decimalDigit? char = some value

theorem Digit.char_ne (digit : Digit) {c : Char} (other : decimalDigit? c = none) :
    digit.char ≠ c := by
  intro same
  have read := digit.read
  rw [same, other] at read
  cases read

/-- Digits, with or without a single underscore between two of them. -/
inductive DigitGroup
  | last (digit : Digit)
  | next (digit : Digit) (underscore : Bool) (rest : DigitGroup)

namespace DigitGroup

def chars : DigitGroup → List Char
  | last digit => [digit.char]
  | next digit underscore rest =>
    digit.char :: ((if underscore then ['_'] else []) ++ rest.chars)

def digits : DigitGroup → List Nat
  | last digit => [digit.value]
  | next digit _ rest => digit.value :: rest.digits

def value (group : DigitGroup) : Nat := valueOf group.digits

theorem exists_cons (group : DigitGroup) :
    ∃ digit rest, group.chars = Digit.char digit :: rest := by
  cases group with
  | last digit => exact ⟨digit, [], rfl⟩
  | next digit underscore rest => exact ⟨digit, _, rfl⟩

theorem isBlank_of_mem {group : DigitGroup} {c : Char} (member : c ∈ group.chars) :
    isBlank c = false := by
  induction group with
  | last digit =>
    rw [List.mem_singleton.mp member]
    exact isBlank_of_decimalDigit? digit.read
  | next digit underscore rest ih =>
    rcases List.mem_cons.mp member with rfl | later
    · exact isBlank_of_decimalDigit? digit.read
    · rcases List.mem_append.mp later with mark | later
      · cases underscore with
        | false => cases mark
        | true =>
          rw [List.mem_singleton.mp mark]
          decide
      · exact ih later

end DigitGroup

/-- Whether a text does not continue the digits before it. -/
def Stops (text : List Char) : Prop := continueGroup text = ([], text)

theorem stops_nil : Stops [] := rfl

theorem stops_cons {c : Char} (other : decimalDigit? c = none) (mark : c ≠ '_') (rest : List Char) :
    Stops (c :: rest) := by
  unfold Stops
  rw [continueGroup]
  · rw [other]
  · rintro second others rfl
    exact absurd rfl mark

theorem continueGroup_cons (digit : Digit) (rest : List Char) :
    continueGroup (digit.char :: rest) =
      (digit.value :: (continueGroup rest).1, (continueGroup rest).2) := by
  have mark : digit.char ≠ '_' := digit.char_ne (by decide)
  rw [continueGroup]
  · rw [digit.read]
  · rintro second others same
    exact absurd same mark

theorem continueGroup_underscore (digit : Digit) (rest : List Char) :
    continueGroup ('_' :: digit.char :: rest) = continueGroup (digit.char :: rest) := by
  rw [continueGroup_cons, continueGroup, digit.read]

/-- A text that continues digits starts, but for an underscore, with a group. -/
private theorem continueGroup_append (underscore : Bool) (group : DigitGroup) {rest : List Char}
    (stops : Stops rest) :
    continueGroup ((if underscore then ['_'] else []) ++ group.chars ++ rest) =
      (group.digits, rest) := by
  have marked (text : List Char) (digit : Digit) :
      continueGroup ((if underscore then ['_'] else []) ++ digit.char :: text) =
        continueGroup (digit.char :: text) := by
    cases underscore with
    | false => rfl
    | true => exact continueGroup_underscore digit text
  induction group generalizing underscore with
  | last digit =>
    rw [List.append_assoc, DigitGroup.chars, List.singleton_append, marked, continueGroup_cons,
      stops]
    rfl
  | next digit between more ih =>
    rw [List.append_assoc, DigitGroup.chars, List.cons_append, marked, continueGroup_cons, ih]
    · rfl
    · intro text digit
      cases between with
      | false => rfl
      | true => exact continueGroup_underscore digit text

theorem digitGroup?_append (group : DigitGroup) {rest : List Char} (stops : Stops rest) :
    digitGroup? (group.chars ++ rest) = some (group.digits, rest) := by
  cases group with
  | last digit =>
    rw [DigitGroup.chars, List.singleton_append, digitGroup?, digit.read, Option.map_some, stops]
    rfl
  | next digit underscore more =>
    rw [DigitGroup.chars, List.cons_append, digitGroup?, digit.read, Option.map_some,
      continueGroup_append underscore more stops]
    rfl

theorem digitGroup?_cons_eq_none {c : Char} (other : decimalDigit? c = none) (rest : List Char) :
    digitGroup? (c :: rest) = none := by
  rw [digitGroup?, other, Option.map_none]

/-- What is read on after a digit makes a group with it. -/
private theorem exists_group_of_continueGroup (digit : Digit) {text rest : List Char}
    {digits : List Nat}
    (read : continueGroup text = (digits, rest)) :
    ∃ group : DigitGroup, digit.char :: text = group.chars ++ rest ∧
      group.digits = digit.value :: digits := by
  fun_induction continueGroup text generalizing digit digits rest with
  | case1 c more value here found after passed ih =>
    cases read
    obtain ⟨group, chars, read⟩ := ih ⟨c, value, here⟩ passed
    refine ⟨.next digit true group, ?_, ?_⟩
    · rw [DigitGroup.chars, List.cons_append, List.append_assoc, ← chars]
      rfl
    · rw [DigitGroup.digits, read]
  | case3 c more notMark value here found after passed ih =>
    cases read
    obtain ⟨group, chars, read⟩ := ih ⟨c, value, here⟩ passed
    refine ⟨.next digit false group, ?_, ?_⟩
    · rw [DigitGroup.chars, List.cons_append, List.append_assoc, ← chars]
      rfl
    · rw [DigitGroup.digits, read]
  | case2 | case4 | case5 =>
    cases read
    exact ⟨.last digit, rfl, rfl⟩

theorem exists_group {text rest : List Char} {digits : List Nat}
    (read : digitGroup? text = some (digits, rest)) :
    ∃ group : DigitGroup, text = group.chars ++ rest ∧ group.digits = digits := by
  cases text with
  | nil => cases read
  | cons c more =>
    obtain ⟨value, here, read⟩ := Option.map_eq_some_iff.mp read
    cases read
    exact exists_group_of_continueGroup ⟨c, value, here⟩ rfl

theorem valueOf_concat (digits : List Nat) (digit : Nat) :
    valueOf (digits ++ [digit]) = valueOf digits * 10 + digit := by
  rw [valueOf, List.foldl_append]
  rfl

theorem valueOf_append (first second : List Nat) :
    valueOf (first ++ second) = valueOf first * 10 ^ second.length + valueOf second := by
  induction second using List.reverseRecOn with
  | nil =>
    rw [List.append_nil, List.length_nil, pow_zero, mul_one]
    rfl
  | append_singleton digits digit ih =>
    rw [← List.append_assoc, valueOf_concat, ih, valueOf_concat, List.length_append,
      List.length_singleton]
    ring

/-- Digits of a number are fewer than the zeros of a number above it. -/
theorem valueOf_lt {digits : List Nat} (decimal : ∀ digit ∈ digits, digit < 10) :
    valueOf digits < Nat.pow 10 digits.length := by
  induction digits using List.reverseRecOn with
  | nil => exact Nat.one_pos
  | append_singleton digits digit ih =>
    have front := ih fun other member => decimal other (List.mem_append_left _ member)
    have last := decimal digit (List.mem_append_right _ List.mem_cons_self)
    rw [valueOf_concat, List.length_append, List.length_singleton, Nat.pow_eq, Nat.pow_succ,
      ← Nat.pow_eq]
    omega

/-! Signs -/

inductive Sign
  | absent
  | plus
  | minus
deriving DecidableEq

namespace Sign

def chars : Sign → List Char
  | absent => []
  | plus => ['+']
  | minus => ['-']

def isMinus : Sign → Bool
  | minus => true
  | _ => false

def factor : Sign → Int
  | minus => -1
  | _ => 1

theorem ite_isMinus (sign : Sign) (number : Int) :
    (if sign.isMinus then -number else number) = sign.factor * number := by
  cases sign <;> simp [isMinus, factor]

theorem isBlank_of_mem {sign : Sign} {c : Char} (member : c ∈ sign.chars) : isBlank c = false := by
  cases sign with
  | absent => cases member
  | plus | minus =>
    rw [List.mem_singleton.mp member]
    decide

end Sign

theorem splitSign_append (sign : Sign) {text : List Char}
    (unsigned : splitSign text = (false, text)) :
    splitSign (sign.chars ++ text) = (sign.isMinus, text) := by
  cases sign with
  | absent => exact unsigned
  | plus | minus => rfl

theorem splitSign_cons {c : Char} (minus : c ≠ '-') (plus : c ≠ '+') (rest : List Char) :
    splitSign (c :: rest) = (false, c :: rest) := by
  rw [splitSign]
  · intro others same
    exact minus (List.cons.inj same).1
  · intro others same
    exact plus (List.cons.inj same).1

theorem exists_sign (text : List Char) : ∃ sign : Sign, text = sign.chars ++
    (splitSign text).2 := by
  unfold splitSign
  split
  next => exact ⟨.minus, rfl⟩
  next => exact ⟨.plus, rfl⟩
  next => exact ⟨.absent, rfl⟩

theorem DigitGroup.splitSign_append (group : DigitGroup) (rest : List Char) :
    splitSign (group.chars ++ rest) = (false, group.chars ++ rest) := by
  obtain ⟨digit, others, chars⟩ := group.exists_cons
  rw [chars]
  exact splitSign_cons (digit.char_ne (by decide)) (digit.char_ne (by decide)) (others ++ rest)

end Numeral

end ScorePlayback
