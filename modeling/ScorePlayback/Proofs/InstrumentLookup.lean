import ScorePlayback.Midi.Instrument
import ScorePlayback.Proofs.Numerals

/-! Looking instruments up. A text of digits asks for a program and every other text for a name; the
first instrument that fits is found. The test for digits lets more through than the reader of numbers
takes, be it other digits or too many of them, and such a text is not looked up at all. -/

namespace ScorePlayback

namespace Text

/-- The digit test lets through what no number is written with, but nothing blank. -/
theorem isBlank_of_isDigit {c : Char} (digit : isDigit c = true) : isBlank c = false := by
  have apart : ∀ other ∈ otherDigitRanges, ∀ range ∈ blankRanges,
      other.2 < range.1 ∨ range.2 < other.1 := by decide
  rcases Bool.or_eq_true_iff.mp digit with decimal | other
  · obtain ⟨value, read⟩ := Option.isSome_iff_exists.mp decimal
    exact isBlank_of_decimalDigit? read
  · obtain ⟨range, member, inside⟩ := List.any_eq_true.mp other
    rw [Bool.and_eq_true, decide_eq_true_eq, decide_eq_true_eq] at inside
    apply List.any_eq_false.mpr
    intro blank among
    have := apart range member blank among
    rw [Bool.and_eq_true, decide_eq_true_eq, decide_eq_true_eq]
    omega

theorem exists_chars_of_isChar {property : Char → Bool} {units : List TextUnit}
    (whole : ∀ unit ∈ units, unit.isChar property = true) :
    ∃ chars : List Char, units = chars.map .char ∧ ∀ c ∈ chars, property c = true := by
  induction units with
  | nil => exact ⟨[], rfl, nofun⟩
  | cons unit rest ih =>
    obtain ⟨here, later⟩ := List.forall_mem_cons.mp whole
    obtain ⟨chars, same, kept⟩ := ih later
    cases unit with
    | half => cases here
    | char c => exact ⟨c :: chars, by rw [same]; rfl, List.forall_mem_cons.mpr ⟨here, kept⟩⟩

theorem isChar_of_chars {property : Char → Bool} {value : Bool} {chars : List Char}
    (kept : ∀ c ∈ chars, property c = value) :
    ∀ unit ∈ chars.map TextUnit.char, unit.isChar property = value := by
  intro unit member
  obtain ⟨c, inside, rfl⟩ := List.mem_map.mp member
  exact kept c inside

theorem strip_surrounded {front core back : List Char} (before : ∀ c ∈ front, isBlank c = true)
    (inside : ∀ c ∈ core, isBlank c = false) (after : ∀ c ∈ back, isBlank c = true) :
    strip (.ofChars (front ++ core ++ back)) = .ofChars core := by
  rw [strip, LooseText.ofChars, List.map_append, List.map_append,
    trim_surrounded (isChar_of_chars before) (isChar_of_chars inside) (isChar_of_chars after)]
  rfl

end Text

namespace Numeral
open Text

/-- A number in digits alone, with blanks around it that a number may have. -/
structure Plain where
  front : List Char := []
  digits : List Digit
  back : List Char := []
  nonempty : digits ≠ []
  blankFront : ∀ c ∈ front, isBlankAround c = true := by exact List.forall_mem_nil _
  blankBack : ∀ c ∈ back, isBlankAround c = true := by exact List.forall_mem_nil _

namespace Plain

def chars (plain : Plain) : List Char := plain.front ++ plain.digits.map Digit.char ++ plain.back

def text (plain : Plain) : LooseText := .ofChars plain.chars

def value (plain : Plain) : Nat := valueOf (plain.digits.map Digit.value)

end Plain

theorem isBlank_of_isBlankAround {c : Char} (blank : isBlankAround c = true) : isBlank c = true :=
  (Bool.and_eq_true_iff.mp blank).1

theorem isBlankAround_of_isBlank {c : Char} (blank : isBlank c = true)
    (other : ¬ (0x1c ≤ c.toNat ∧ c.toNat ≤ 0x1f)) : isBlankAround c = true := by
  rw [isBlankAround, blank, Bool.true_and, Bool.not_eq_true', Bool.and_eq_false_iff,
    decide_eq_false_iff_not, decide_eq_false_iff_not]
  omega

theorem isBlankAround_of_isBlank_eq_false {c : Char} (dark : isBlank c = false) :
    isBlankAround c = false := by
  rw [isBlankAround, dark, Bool.false_and]

private theorem continueGroup_digits (digits : List Digit) (rest : List Char) :
    continueGroup (digits.map Digit.char ++ rest) =
      (digits.map Digit.value ++ (continueGroup rest).1, (continueGroup rest).2) := by
  induction digits with
  | nil => rfl
  | cons digit more ih => rw [List.map_cons, List.cons_append, continueGroup_cons, ih]; rfl

theorem continueGroup_suffix (text : List Char) : (continueGroup text).2 <:+ text := by
  fun_induction continueGroup text with
  | case1 c rest digit read found after passed ih =>
    rw [passed] at ih
    exact ih.trans (List.suffix_append ['_', c] rest)
  | case3 c rest notMark digit read found after passed ih =>
    rw [passed] at ih
    exact ih.trans (List.suffix_cons c rest)
  | case2 | case4 | case5 => exact List.suffix_rfl

theorem digitGroup?_digits {digits : List Digit} (nonempty : digits ≠ []) (rest : List Char) :
    digitGroup? (digits.map Digit.char ++ rest) =
      some (digits.map Digit.value ++ (continueGroup rest).1, (continueGroup rest).2) := by
  cases digits with
  | nil => exact absurd rfl nonempty
  | cons digit more =>
    rw [List.map_cons, List.cons_append, digitGroup?, digit.read, Option.map_some,
      continueGroup_digits]
    rfl

theorem splitSign_digits {digits : List Digit} (nonempty : digits ≠ []) (rest : List Char) :
    splitSign (digits.map Digit.char ++ rest) = (false, digits.map Digit.char ++ rest) := by
  obtain ⟨digit, more, rfl⟩ := List.exists_cons_of_ne_nil nonempty
  exact splitSign_cons (digit.char_ne (by decide)) (digit.char_ne (by decide)) _

theorem isBlankAround_digits (digits : List Digit) :
    ∀ c ∈ digits.map Digit.char, isBlankAround c = false := by
  intro c member
  obtain ⟨digit, -, rfl⟩ := List.mem_map.mp member
  exact isBlankAround_of_isBlank_eq_false (isBlank_of_decimalDigit? digit.read)

theorem Plain.ofText_text (plain : Plain) :
    ofText plain.text = if plain.digits.length ≤ maxDigits then .ok (plain.value : Int)
      else .error (.tooManyDigits plain.digits.length) := by
  have read := digitGroup?_digits plain.nonempty []
  have unsigned := splitSign_digits plain.nonempty []
  have unjoined : ([] : List Char).head? ≠ some '_' := nofun
  simp only [List.append_nil, continueGroup] at read unsigned
  rw [ofText, text, LooseText.chars?_ofChars, Option.elim_some, ofChars, chars,
    trim_surrounded plain.blankFront (isBlankAround_digits plain.digits) plain.blankBack, unsigned]
  simp only [ofUnsigned, read, List.length_map]
  by_cases short : plain.digits.length ≤ maxDigits
  · rw [if_neg fun overlong => Nat.not_lt.mpr short overlong.1, if_pos short]
    rfl
  · rw [if_pos ⟨Nat.not_le.mp short, unjoined⟩, if_neg short]
    rfl

/-- A group without underscores is digits alone. -/
theorem DigitGroup.exists_digits (group : DigitGroup) (joined : '_' ∉ group.chars) :
    ∃ digits : List Digit, digits ≠ [] ∧ group.chars = digits.map Digit.char ∧
      group.digits = digits.map Digit.value := by
  induction group with
  | last digit => exact ⟨[digit], List.cons_ne_nil _ _, rfl, rfl⟩
  | next digit underscore rest ih =>
    cases underscore with
    | true => exact absurd (List.mem_cons_of_mem _ List.mem_cons_self) joined
    | false =>
      obtain ⟨digits, -, same, values⟩ := ih fun later => joined (List.mem_cons_of_mem _ later)
      exact ⟨digit :: digits, List.cons_ne_nil _ _, congrArg (digit.char :: ·) same,
        congrArg (digit.value :: ·) values⟩

/-- Unless a text is refused as no numeral, it starts, behind blanks and a sign, with a group of
digits. This is too long, or nothing but blanks comes after it. -/
private theorem exists_signed {text : List Char} (numeral : ofChars text ≠ .error .notNumeral) :
    ∃ (before : List Char) (sign : Sign) (group : DigitGroup) (rest after : List Char),
      text = before ++ (sign.chars ++ (group.chars ++ rest)) ++ after ∧
        (∀ c ∈ before, isBlankAround c = true) ∧ (∀ c ∈ after, isBlankAround c = true) ∧
        ((∃ count, ofChars text = .error (.tooManyDigits count)) ∧ maxDigits < group.digits.length ∨
          (∃ number, ofChars text = .ok number) ∧ rest = []) := by
  obtain ⟨before, after, split, blankBefore, blankAfter⟩ := exists_trim isBlankAround text
  obtain ⟨sign, signed⟩ := exists_sign (trim isBlankAround text)
  rw [signed] at split
  simp only [ofChars] at numeral ⊢
  cases grouped : digitGroup? (splitSign (trim isBlankAround text)).2 with
  | none =>
    rw [ofUnsigned, grouped] at numeral
    exact absurd rfl numeral
  | some read =>
    obtain ⟨digits, rest⟩ := read
    obtain ⟨group, same, rfl⟩ := exists_group grouped
    refine ⟨before, sign, group, rest, after, same ▸ split, blankBefore, blankAfter, ?_⟩
    simp only [ofUnsigned, grouped] at numeral ⊢
    by_cases overlong : maxDigits < group.digits.length ∧ rest.head? ≠ some '_'
    · rw [if_pos overlong]
      exact .inl ⟨⟨_, rfl⟩, overlong.1⟩
    · rw [if_neg overlong] at numeral ⊢
      cases rest with
      | nil => exact .inr ⟨⟨_, rfl⟩, rfl⟩
      | cons => exact absurd rfl numeral

end Numeral

namespace Bank
open Text Numeral

theorem asksForNumber_iff (text : LooseText) :
    asksForNumber text = true ↔
      ∃ front core back : List Char, text = .ofChars (front ++ core ++ back) ∧ core ≠ [] ∧
        (∀ c ∈ front, isBlank c = true) ∧ (∀ c ∈ core, isDigit c = true) ∧
        ∀ c ∈ back, isBlank c = true := by
  constructor
  · intro asks
    rw [asksForNumber, Bool.and_eq_true, Bool.not_eq_true', LooseText.isEmpty,
      List.isEmpty_eq_false_iff, List.all_eq_true] at asks
    obtain ⟨filled, digits⟩ := asks
    obtain ⟨before, after, split, blankBefore, blankAfter⟩ :=
      exists_trim (TextUnit.isChar isBlank) text.units
    obtain ⟨front, rfl, blankFront⟩ := exists_chars_of_isChar blankBefore
    obtain ⟨back, rfl, blankBack⟩ := exists_chars_of_isChar blankAfter
    obtain ⟨core, inside, digits⟩ := exists_chars_of_isChar digits
    refine ⟨front, core, back, ?_, ?_, blankFront, digits, blankBack⟩
    · rw [strip] at inside
      rw [LooseText.ofChars, List.map_append, List.map_append, ← inside, ← split]
    · rintro rfl
      exact filled inside
  · rintro ⟨front, core, back, rfl, filled, blankFront, digits, blankBack⟩
    have dark : ∀ c ∈ core, isBlank c = false := fun c member => isBlank_of_isDigit (digits c member)
    rw [asksForNumber, strip_surrounded blankFront dark blankBack, Bool.and_eq_true,
      Bool.not_eq_true', LooseText.isEmpty, List.isEmpty_eq_false_iff, List.all_eq_true]
    exact ⟨fun empty => filled (List.map_eq_nil_iff.mp empty), isChar_of_chars digits⟩

theorem known_of_asksForNumber {chars : List Char} (asks : asksForNumber (.ofChars chars) = true) :
    ∀ c ∈ chars, isBlank c = true ∨ isDigit c = true := by
  obtain ⟨front, core, back, same, -, blankFront, digits, blankBack⟩ :=
    (asksForNumber_iff _).mp asks
  have same : chars = front ++ core ++ back := by
    have read := congrArg LooseText.chars? same
    rw [LooseText.chars?_ofChars, LooseText.chars?_ofChars] at read
    exact Option.some.inj read
  rw [same]
  refine List.forall_mem_append.mpr ⟨List.forall_mem_append.mpr ⟨?_, ?_⟩, ?_⟩
  · exact fun c first => .inl (blankFront c first)
  · exact fun c middle => .inr (digits c middle)
  · exact fun c last => .inl (blankBack c last)

/-- What passes the test for digits, unless it is no numeral, starts with digits behind blanks. They
are too many, or only blanks come after them. -/
theorem exists_digits_of_numeral {text : LooseText} (asks : asksForNumber text = true)
    (numeral : ofText text ≠ .error .notNumeral) :
    ∃ (front : List Char) (digits : List Digit) (rest : List Char),
      text = .ofChars (front ++ digits.map Digit.char ++ rest) ∧
        (∀ c ∈ front, isBlankAround c = true) ∧ digits ≠ [] ∧
        ((∃ count, ofText text = .error (.tooManyDigits count)) ∧ maxDigits < digits.length ∨
          (∃ number, ofText text = .ok number) ∧ ∀ c ∈ rest, isBlankAround c = true) := by
  obtain ⟨front, core, back, rfl, -⟩ := (asksForNumber_iff text).mp asks
  have known := known_of_asksForNumber asks
  simp only [ofText, LooseText.chars?_ofChars, Option.elim_some] at numeral ⊢
  obtain ⟨before, sign, group, rest, after, split, blankBefore, blankAfter, ending⟩ :=
    exists_signed numeral
  rw [split] at known
  -- Neither a sign nor an underscore is a blank or a digit.
  have absent {c : Char} (neither : ¬ (isBlank c = true ∨ isDigit c = true)) :
      c ∉ sign.chars ∧ c ∉ group.chars :=
    ⟨fun here => neither (known c (by simp [here])), fun here => neither (known c (by simp [here]))⟩
  obtain ⟨digits, nonempty, alone, values⟩ := group.exists_digits (absent (by decide)).2
  have unsigned : sign = .absent := by
    cases sign with
    | absent => rfl
    | plus => exact absurd List.mem_cons_self (absent (by decide)).1
    | minus => exact absurd List.mem_cons_self (absent (by decide)).1
  refine ⟨before, digits, rest ++ after, ?_, blankBefore, nonempty, ?_⟩
  · rw [split, unsigned, alone]
    simp only [Sign.chars, List.nil_append, List.append_assoc]
  · rw [values, List.length_map] at ending
    rcases ending with overlong | ⟨read, rfl⟩
    · exact .inl overlong
    · exact .inr ⟨read, blankAfter⟩

/-- What passes the test for digits and is read as a number is digits alone, and not too many. -/
theorem exists_plain {text : LooseText} {number : Int} (asks : asksForNumber text = true)
    (read : ofText text = .ok number) :
    ∃ plain : Plain, text = plain.text ∧ plain.digits.length ≤ maxDigits := by
  obtain ⟨front, digits, rest, same, blankFront, nonempty, ⟨⟨count, overlong⟩, -⟩ | ⟨-, blankRest⟩⟩ :=
    exists_digits_of_numeral asks (by rw [read]; nofun)
  · cases read.symm.trans overlong
  · let plain : Plain := ⟨front, digits, rest, nonempty, blankFront, blankRest⟩
    refine ⟨plain, same, ?_⟩
    by_contra overlong
    have refused := plain.ofText_text
    rw [if_neg overlong] at refused
    cases (same ▸ read).symm.trans refused

/-- Whether a text passes the test for digits and starts, behind blanks, with more of them than a
number is read with. -/
def Overlong (text : LooseText) : Prop :=
  asksForNumber text = true ∧ ∃ (front : List Char) (digits : List Digit) (rest : List Char),
    text = .ofChars (front ++ digits.map Digit.char ++ rest) ∧
      (∀ c ∈ front, isBlankAround c = true) ∧ maxDigits < digits.length

theorem overlong_iff (text : LooseText) :
    Overlong text ↔
      asksForNumber text = true ∧ ∃ count, ofText text = .error (.tooManyDigits count) := by
  refine and_congr_right fun asks => ⟨?_, ?_⟩
  · rintro ⟨front, digits, rest, rfl, blankFront, many⟩
    have nonempty : digits ≠ [] := by
      rintro rfl
      exact Nat.not_lt_zero _ many
    obtain ⟨more, trimmed⟩ :=
      exists_trim_append blankFront (isBlankAround_digits digits) (by simpa using nonempty) rest
    obtain ⟨before, after, split, -, -⟩ :=
      exists_trim isBlankAround (front ++ digits.map Digit.char ++ rest)
    have unmarked : (continueGroup more).2.head? ≠ some '_' := by
      intro marked
      have inside := (continueGroup_suffix more).mem (List.mem_of_head? marked)
      have known := known_of_asksForNumber asks '_' (by rw [split, trimmed]; simp [inside])
      revert known
      decide
    rw [ofText, LooseText.chars?_ofChars, Option.elim_some, ofChars, trimmed,
      splitSign_digits nonempty]
    simp only [ofUnsigned, digitGroup?_digits nonempty]
    rw [if_pos ⟨by simp only [List.length_append, List.length_map]; omega, unmarked⟩]
    exact ⟨_, rfl⟩
  · rintro ⟨count, overlong⟩
    obtain ⟨front, digits, rest, same, blankFront, -, ⟨-, many⟩ | ⟨⟨number, read⟩, -⟩⟩ :=
      exists_digits_of_numeral asks (by rw [overlong]; nofun)
    · exact ⟨front, digits, rest, same, blankFront, many⟩
    · cases overlong.symm.trans read

/-- What the test for digits lets through and no number is written with: separators around the
digits, and digits that are not decimal. -/
def Stray (c : Char) : Prop :=
  (0x1c ≤ c.toNat ∧ c.toNat ≤ 0x1f) ∨ (isDigit c = true ∧ decimalDigit? c = none)

private theorem Stray.isBlankAround_eq_false {c : Char} (stray : Stray c) :
    isBlankAround c = false := by
  rcases stray with ⟨low, high⟩ | ⟨digit, -⟩
  · rw [isBlankAround, decide_eq_true low, decide_eq_true high]
    exact Bool.and_false _
  · exact isBlankAround_of_isBlank_eq_false (isBlank_of_isDigit digit)

private theorem Stray.decimalDigit?_eq_none {c : Char} (stray : Stray c) :
    decimalDigit? c = none := by
  rcases stray with ⟨low, high⟩ | ⟨-, other⟩
  · cases read : decimalDigit? c with
    | none => rfl
    | some value =>
      have zeros : ∀ first ∈ decimalZeros, 0x1f < first := by decide
      obtain ⟨first, member, least, -⟩ := exists_zero_of_decimalDigit? read
      have := zeros first member
      omega
  · exact other

private theorem exists_digits_of_decimal {chars : List Char}
    (decimal : ∀ c ∈ chars, decimalDigit? c ≠ none) :
    ∃ digits : List Digit, chars = digits.map Digit.char := by
  induction chars with
  | nil => exact ⟨[], rfl⟩
  | cons c rest ih =>
    obtain ⟨here, later⟩ := List.forall_mem_cons.mp decimal
    obtain ⟨value, read⟩ := Option.ne_none_iff_exists'.mp here
    obtain ⟨digits, rfl⟩ := ih later
    exact ⟨⟨c, value, read⟩ :: digits, rfl⟩

/-- A text of digits is read as a number, unless something stray is in it. -/
theorem exists_plain_iff {text : LooseText} (asks : asksForNumber text = true) :
    (∃ plain : Plain, text = plain.text) ↔ ∀ c, .char c ∈ text.units → ¬ Stray c := by
  constructor
  · rintro ⟨plain, rfl⟩ c member stray
    obtain ⟨_, inside, same⟩ := List.mem_map.mp member
    cases same
    have dark := Bool.eq_false_iff.mp stray.isBlankAround_eq_false
    rcases List.mem_append.mp inside with early | last
    · rcases List.mem_append.mp early with first | middle
      · exact dark (plain.blankFront c first)
      · obtain ⟨digit, -, rfl⟩ := List.mem_map.mp middle
        exact digit.char_ne stray.decimalDigit?_eq_none rfl
    · exact dark (plain.blankBack c last)
  · intro clean
    obtain ⟨front, core, back, rfl, filled, blankFront, digits, blankBack⟩ :=
      (asksForNumber_iff text).mp asks
    have clean (c : Char) (member : c ∈ front ++ core ++ back) : ¬ Stray c :=
      clean c (List.mem_map_of_mem member)
    have around {c : Char} (member : c ∈ front ++ core ++ back) (blank : isBlank c = true) :
        isBlankAround c = true :=
      isBlankAround_of_isBlank blank fun separator => clean c member (.inl separator)
    have decimal : ∀ c ∈ core, decimalDigit? c ≠ none := by
      intro c member other
      exact clean c (by simp [member]) (.inr ⟨digits c member, other⟩)
    obtain ⟨read, rfl⟩ := exists_digits_of_decimal decimal
    refine ⟨⟨front, read, back, ?_, ?_, ?_⟩, rfl⟩
    · rintro rfl
      exact filled rfl
    · intro c member
      exact around (by simp [member]) (blankFront c member)
    · intro c member
      exact around (by simp [member]) (blankBack c member)

end Bank

/-- What a query is after. -/
inductive Sought
  | program (number : Int)
  | name (lowered : LooseText)

/-- Whether an instrument is the one that is sought. -/
def Sought.Fits (sought : Sought) (instrument : Instrument) : Prop :=
  match sought with
  | program number => instrument.program.isWhole number = true
  | name lowered => Text.lower instrument.name = lowered

/-- Whether the lack of what is sought can be told. -/
def Sought.isWritable : Sought → Bool
  | program number => ScorePlayback.isWritable number
  | name _ => true

instance (sought : Sought) (instrument : Instrument) : Decidable (sought.Fits instrument) :=
  match sought with
  | .program number => inferInstanceAs (Decidable (instrument.program.isWhole number = true))
  | .name lowered => inferInstanceAs (Decidable (Text.lower instrument.name = lowered))

/-- A number and a text of digits, if they are not too many, are after a program. Every other text is
after a name. -/
inductive Query.Seeks : Query → Sought → Prop
  | program (number : Int) : Seeks (.program number) (.program number)
  | flag (value : Bool) : Seeks (.flag value) (.program value.toNat)
  | digits (plain : Numeral.Plain) (short : plain.digits.length ≤ maxDigits) :
    Seeks (.text plain.text) (.program plain.value)
  | name {text : LooseText} (other : Bank.asksForNumber text = false) :
    Seeks (.text text) (.name (Text.lower (Text.strip text)))

namespace Bank
open Text Numeral

private theorem asksForNumber_plain (plain : Plain) : asksForNumber plain.text = true := by
  apply (asksForNumber_iff _).mpr
  refine ⟨plain.front, plain.digits.map Digit.char, plain.back, rfl, ?_, ?_, ?_, ?_⟩
  · intro empty
    exact plain.nonempty (List.map_eq_nil_iff.mp empty)
  · intro c member
    exact isBlank_of_isBlankAround (plain.blankFront c member)
  · intro c member
    obtain ⟨digit, -, rfl⟩ := List.mem_map.mp member
    rw [isDigit, digit.read]
    rfl
  · intro c member
    exact isBlank_of_isBlankAround (plain.blankBack c member)

theorem isWritable_plain {plain : Plain} (short : plain.digits.length ≤ maxDigits) :
    isWritable (plain.value : Int) = true := by
  refine isWritable_of_lt short ?_
  have decimal : ∀ digit ∈ plain.digits.map Digit.value, digit < 10 := by
    intro value member
    obtain ⟨digit, -, rfl⟩ := List.mem_map.mp member
    exact decimalDigit?_lt digit.read
  have below := valueOf_lt decimal
  rwa [List.length_map] at below

/-- A query that is after something is read, and fits what that fits. It can be written if that can. -/
private theorem readQuery_of_seeks {query : Query} {sought : Sought} (seeks : query.Seeks sought) :
    ∃ asked, readQuery query = .ok asked ∧ (∀ value, asked ≠ .other value) ∧
      (∀ instrument, matchesQuery asked instrument = true ↔ sought.Fits instrument) ∧
      (sought.isWritable = true ∧ (∃ shown, asked.write = .ok shown) ∨
        sought.isWritable = false ∧ asked.write = .error .digitsWritten) := by
  have written (number : Int) :
      isWritable number = true ∧ (∃ shown, (Query.program number).write = .ok shown) ∨
        isWritable number = false ∧ (Query.program number).write = .error .digitsWritten := by
    cases writable : isWritable number with
    | true => exact .inl ⟨rfl, _, writeWhole_of_isWritable writable⟩
    | false => exact .inr ⟨rfl, writeWhole_of_overlong writable⟩
  cases seeks with
  | program number => exact ⟨.program number, rfl, nofun, fun _ => Iff.rfl, written number⟩
  | flag value =>
    have small : isWritable value.toNat = true :=
      isWritable_of_lt (show 1 ≤ maxDigits by decide) (by cases value <;> decide)
    exact ⟨.flag value, rfl, nofun, fun _ => by cases value <;> exact Iff.rfl,
      .inl ⟨small, _, rfl⟩⟩
  | digits plain short =>
    refine ⟨.program plain.value, ?_, nofun, fun _ => Iff.rfl, written plain.value⟩
    simp only [readQuery, asksForNumber_plain, if_true, plain.ofText_text, if_pos short]
  | @name text other =>
    refine ⟨.text text, ?_, nofun, fun _ => beq_iff_eq, .inl ⟨rfl, _, rfl⟩⟩
    rw [readQuery, if_neg (Bool.eq_false_iff.mp other)]

/-- The search itself, once it is known what is asked for. -/
private theorem find_of_readQuery {bank : Bank} {query asked : Query}
    (read : readQuery query = .ok asked)
    (comparable : ∀ value, asked ≠ .other value) :
    find bank query =
      (bank.available.find? (matchesQuery asked)).elim (.error (.noMatch asked.write)) .ok := by
  cases asked with
  | other value => exact absurd rfl (comparable value)
  | program | flag | text =>
    simp only [find, read, bind, Except.bind]
    cases bank.available.find? (matchesQuery _) <;> rfl

/-- The first instrument that fits is found. If there is none that is said, unless it cannot be. -/
theorem exists_find_of_seeks {query : Query} {sought : Sought} (seeks : query.Seeks sought)
    (bank : Bank) :
    ∃ missing : LookupFault,
      find bank query =
        (bank.available.find? (decide <| sought.Fits ·)).elim (.error missing) .ok ∧
      (sought.isWritable = true ∧ (∃ shown, missing = .unavailable (.noMatch shown)) ∨
        sought.isWritable = false ∧ missing = .limit .digitsWritten) := by
  obtain ⟨asked, read, comparable, fits, written⟩ := readQuery_of_seeks seeks
  have same : matchesQuery asked = (decide <| sought.Fits ·) := by
    funext instrument
    rw [Bool.eq_iff_iff, fits, decide_eq_true_iff]
  refine ⟨.noMatch asked.write, ?_, ?_⟩
  · rw [find_of_readQuery read comparable, same]
  · rcases written with ⟨writable, shown, written⟩ | ⟨overlong, written⟩
    · exact .inl ⟨writable, shown, by rw [written]; rfl⟩
    · exact .inr ⟨overlong, by rw [written]; rfl⟩

section Seeks
variable {bank : Bank} {query : Query} {sought : Sought} (seeks : query.Seeks sought)
include seeks

theorem find_eq_ok_iff (instrument : Instrument) :
    find bank query = .ok instrument ↔
      ∃ before after, bank.available = before ++ instrument :: after ∧ sought.Fits instrument ∧
        ∀ other ∈ before, ¬ sought.Fits other := by
  obtain ⟨missing, found, -⟩ := exists_find_of_seeks seeks bank
  have first : find bank query = .ok instrument ↔
      bank.available.find? (decide <| sought.Fits ·) = some instrument := by
    rw [found]
    cases bank.available.find? (decide <| sought.Fits ·) with
    | none => exact ⟨nofun, nofun⟩
    | some first => simp
  simp only [first, List.find?_eq_some_iff_append, decide_eq_true_eq, Bool.not_eq_true',
    decide_eq_false_iff_not]
  constructor
  · rintro ⟨fit, before, after, split, first⟩
    exact ⟨before, after, split, fit, first⟩
  · rintro ⟨before, after, split, fit, first⟩
    exact ⟨fit, before, after, split, first⟩

theorem find_eq_error_iff :
    (∃ fault, find bank query = .error fault) ↔
      ∀ instrument ∈ bank.available, ¬ sought.Fits instrument := by
  obtain ⟨missing, found, -⟩ := exists_find_of_seeks seeks bank
  have nobody : (∀ instrument ∈ bank.available, ¬ sought.Fits instrument) ↔
      bank.available.find? (decide <| sought.Fits ·) = none := by
    simp only [List.find?_eq_none, decide_eq_true_eq]
  rw [nobody, found]
  cases bank.available.find? (decide <| sought.Fits ·) with
  | none => exact ⟨fun _ => rfl, fun _ => ⟨missing, rfl⟩⟩
  | some first => exact ⟨nofun, nofun⟩

/-- The lack of a match is the only fault, if need be without words. -/
theorem find_fault {fault : LookupFault} (failed : find bank query = .error fault) :
    sought.isWritable = true ∧ (∃ shown, fault = .unavailable (.noMatch shown)) ∨
      sought.isWritable = false ∧ fault = .limit .digitsWritten := by
  obtain ⟨missing, found, told⟩ := exists_find_of_seeks seeks bank
  rw [found] at failed
  cases first : bank.available.find? (decide <| sought.Fits ·) with
  | none =>
    rw [first] at failed
    cases failed
    exact told
  | some instrument =>
    rw [first] at failed
    cases failed

theorem find_noMatch_iff :
    (∃ shown, find bank query = .error (.unavailable (.noMatch shown))) ↔
      sought.isWritable = true ∧ ∀ instrument ∈ bank.available, ¬ sought.Fits instrument := by
  rw [← find_eq_error_iff seeks]
  constructor
  · rintro ⟨shown, failed⟩
    rcases find_fault seeks failed with ⟨writable, -⟩ | ⟨-, told⟩
    · exact ⟨writable, _, failed⟩
    · cases told
  · rintro ⟨writable, fault, failed⟩
    rcases find_fault seeks failed with ⟨-, shown, rfl⟩ | ⟨overlong, -⟩
    · exact ⟨shown, failed⟩
    · cases writable.symm.trans overlong

theorem find_digitsWritten_iff :
    find bank query = .error (.limit .digitsWritten) ↔
      sought.isWritable = false ∧ ∀ instrument ∈ bank.available, ¬ sought.Fits instrument := by
  rw [← find_eq_error_iff seeks]
  constructor
  · intro failed
    rcases find_fault seeks failed with ⟨-, shown, told⟩ | ⟨overlong, -⟩
    · cases told
    · exact ⟨overlong, _, failed⟩
  · rintro ⟨overlong, fault, failed⟩
    rcases find_fault seeks failed with ⟨writable, -⟩ | ⟨-, rfl⟩
    · cases writable.symm.trans overlong
    · exact failed

end Seeks

/-- Whether a text passes the test for digits, but is refused as no numeral: its digits are not too
many, and it holds what no number is written with. -/
def Misread (text : LooseText) : Prop :=
  asksForNumber text = true ∧ ¬ Overlong text ∧ ∃ c, .char c ∈ text.units ∧ Stray c

theorem misread_iff (text : LooseText) :
    Misread text ↔ asksForNumber text = true ∧ ofText text = .error .notNumeral := by
  refine and_congr_right fun asks => ?_
  rw [overlong_iff, and_iff_right asks]
  have clean := exists_plain_iff asks
  cases read : ofText text with
  | ok number =>
    obtain ⟨plain, rfl, -⟩ := exists_plain asks read
    refine ⟨?_, nofun⟩
    rintro ⟨-, c, member, stray⟩
    exact absurd stray (clean.mp ⟨plain, rfl⟩ c member)
  | error fault =>
    cases fault with
    | tooManyDigits count => simp
    | notNumeral =>
      refine ⟨fun _ => rfl, fun _ => ⟨nofun, ?_⟩⟩
      by_contra nothing
      obtain ⟨plain, rfl⟩ := clean.mpr fun c member stray => nothing ⟨c, member, stray⟩
      rw [plain.ofText_text] at read
      split at read <;> cases read

theorem exists_seeks_iff (text : LooseText) :
    (∃ sought, (Query.text text).Seeks sought) ↔ ¬ Misread text ∧ ¬ Overlong text := by
  rw [misread_iff, overlong_iff]
  constructor
  · rintro ⟨sought, seeks⟩
    cases seeks with
    | digits plain short =>
      rw [plain.ofText_text, if_pos short]
      exact ⟨nofun, nofun⟩
    | name other =>
      rw [other]
      exact ⟨nofun, nofun⟩
  · rintro ⟨numeral, short⟩
    cases asks : asksForNumber text with
    | false => exact ⟨_, .name asks⟩
    | true =>
      cases read : ofText text with
      | ok number =>
        obtain ⟨plain, rfl, few⟩ := exists_plain asks read
        exact ⟨_, .digits plain few⟩
      | error fault =>
        cases fault with
        | notNumeral => exact absurd ⟨asks, read⟩ numeral
        | tooManyDigits count => exact absurd ⟨asks, count, read⟩ short

/-- The lack of what a text is after can always be told. -/
private theorem isWritable_of_seeks_text {text : LooseText} {sought : Sought}
    (seeks : (Query.text text).Seeks sought) : sought.isWritable = true := by
  cases seeks with
  | digits plain short => exact isWritable_plain short
  | name => rfl

theorem find_numeral_iff (bank : Bank) (text : LooseText) :
    find bank (.text text) = .error (.numeral text) ↔ Misread text := by
  constructor
  · intro failed
    by_contra fine
    by_cases overlong : Overlong text
    · obtain ⟨asks, count, read⟩ := (overlong_iff text).mp overlong
      simp only [find, readQuery, asks, read, if_true] at failed
      cases failed
    · obtain ⟨sought, seeks⟩ := (exists_seeks_iff text).mpr ⟨fine, overlong⟩
      rcases find_fault seeks failed with ⟨-, shown, told⟩ | ⟨-, told⟩ <;> cases told
  · intro misread
    obtain ⟨asks, read⟩ := (misread_iff text).mp misread
    simp only [find, readQuery, asks, read, if_true]
    rfl

theorem find_limit_iff (bank : Bank) (text : LooseText) :
    (∃ limit, find bank (.text text) = .error (.limit limit)) ↔ Overlong text := by
  constructor
  · rintro ⟨limit, failed⟩
    by_contra short
    by_cases misread : Misread text
    · cases failed.symm.trans ((find_numeral_iff bank text).mpr misread)
    · obtain ⟨sought, seeks⟩ := (exists_seeks_iff text).mpr ⟨misread, short⟩
      rcases find_fault seeks failed with ⟨-, shown, told⟩ | ⟨overlong, -⟩
      · cases told
      · cases (isWritable_of_seeks_text seeks).symm.trans overlong
  · intro overlong
    obtain ⟨asks, count, read⟩ := (overlong_iff text).mp overlong
    refine ⟨.digitsRead count, ?_⟩
    simp only [find, readQuery, asks, read, if_true]
    rfl

/-- Whatever a query is after, the first instrument that fits is found. If none does there is no
match, and nothing else happens unless what is sought is too long to be written. A text is after
something unless its digits are misread or too many, and then they are the fault. -/
theorem find_first_fitting (bank : Bank) :
    (∀ (query : Query) (sought : Sought), query.Seeks sought →
      (∀ instrument, find bank query = .ok instrument ↔
        ∃ before after, bank.available = before ++ instrument :: after ∧ sought.Fits instrument ∧
          ∀ other ∈ before, ¬ sought.Fits other) ∧
      ((∃ shown, find bank query = .error (.unavailable (.noMatch shown))) ↔
        sought.isWritable = true ∧ ∀ instrument ∈ bank.available, ¬ sought.Fits instrument) ∧
      (find bank query = .error (.limit .digitsWritten) ↔
        sought.isWritable = false ∧ ∀ instrument ∈ bank.available, ¬ sought.Fits instrument)) ∧
    ∀ text : LooseText,
      ((∃ sought, (Query.text text).Seeks sought) ↔ ¬ Misread text ∧ ¬ Overlong text) ∧
      (find bank (.text text) = .error (.numeral text) ↔ Misread text) ∧
      ((∃ limit, find bank (.text text) = .error (.limit limit)) ↔ Overlong text) := by
  constructor
  · intro query sought seeks
    exact ⟨find_eq_ok_iff seeks, find_noMatch_iff seeks, find_digitsWritten_iff seeks⟩
  · intro text
    exact ⟨exists_seeks_iff text, find_numeral_iff bank text, find_limit_iff bank text⟩

/-- Five in another script is after the sixth program. -/
def devanagariFive : Numeral.Plain where
  front := ['\t']
  digits := [⟨'\u096b', 5, by decide⟩]
  nonempty := List.cons_ne_nil _ _
  blankFront := List.forall_mem_singleton.mpr (by decide)

theorem find_first_fitting_five :
    find .generalMidi (.text devanagariFive.text) = .ok ⟨"Electric Piano 2", .int 5⟩ := by
  have found := ((find_first_fitting .generalMidi).1 _ _ (.digits devanagariFive (by decide))).1
  apply (found ⟨"Electric Piano 2", .int 5⟩).mpr
  exact ⟨(available .generalMidi).take 5, (available .generalMidi).drop 6, rfl, by decide, by decide⟩

/-- One zero more than a number is read with. -/
def manyZeros : LooseText := .ofChars (List.replicate (maxDigits + 1) '0')

private theorem overlong_manyZeros : Overlong manyZeros := by
  have zeros (count : Nat) : List.replicate count '0' =
      [] ++ (List.replicate count (⟨'0', 0, by decide⟩ : Digit)).map Digit.char ++ [] := by
    rw [List.map_replicate, List.nil_append, List.append_nil]
  refine ⟨(asksForNumber_iff _).mpr ⟨[], List.replicate (maxDigits + 1) '0', [], ?_⟩, ?_⟩
  · refine ⟨by rw [List.nil_append, List.append_nil]; rfl, ?_, nofun, ?_, nofun⟩
    · exact List.ne_nil_of_length_pos (by rw [List.length_replicate]; exact Nat.succ_pos _)
    · intro c member
      rw [List.eq_of_mem_replicate member]
      decide
  · exact ⟨[], _, [], congrArg LooseText.ofChars (zeros _), nofun,
      by rw [List.length_replicate]; exact Nat.lt_succ_self _⟩

/-- A superscript passes the test for digits and is no number, and neither is a number behind a
separator. These texts, and too many zeros, are not answered with an instrument or with the lack of
one. -/
theorem find_superscript :
    find .generalMidi (.text "²") = .error (.numeral "²") ∧
      find .generalMidi (.text "\u001c5") = .error (.numeral "\u001c5") ∧
      (∃ limit, find .generalMidi (.text manyZeros) = .error (.limit limit)) ∧
      ¬ ∀ (bank : Bank) (text : LooseText), (∃ instrument, find bank (.text text) = .ok instrument) ∨
        ∃ fault, find bank (.text text) = .error (.unavailable fault) := by
  have superscript : find .generalMidi (.text "²") = .error (.numeral "²") :=
    (find_numeral_iff _ _).mpr ((misread_iff "²").mpr ⟨by decide, rfl⟩)
  have separated : find .generalMidi (.text "\u001c5") = .error (.numeral "\u001c5") :=
    (find_numeral_iff _ _).mpr ((misread_iff "\u001c5").mpr ⟨by decide, rfl⟩)
  refine ⟨superscript, separated, (find_limit_iff _ _).mpr overlong_manyZeros, ?_⟩
  intro guarded
  rcases guarded .generalMidi "²" with ⟨instrument, found⟩ | ⟨fault, missing⟩
  · cases superscript.symm.trans found
  · cases superscript.symm.trans missing

end Bank

end ScorePlayback
