/-! Text from outside. It may be broken: numbered escapes can put half of a surrogate pair into it,
which is no character. Such text is a list of units, and no `String` holds it. -/

namespace ScorePlayback.Text

/-- A character, or half of a pair that stands alone. The halves are numbered from the first. -/
inductive TextUnit
  | char (c : Char)
  | half (index : Fin 0x800)
deriving DecidableEq, Repr, Inhabited

namespace TextUnit

def char? : TextUnit → Option Char
  | char c => some c
  | half _ => none

/-- Whether a unit is a character with a property. -/
def isChar (property : Char → Bool) : TextUnit → Bool
  | char c => property c
  | half _ => false

def isHalf : TextUnit → Bool
  | char _ => false
  | half _ => true

/-- The code point of a unit. -/
def point : TextUnit → Nat
  | char c => c.toNat
  | half index => 0xd800 + index.val

/-- The unit of a code point. -/
def ofPoint (point : Nat) : TextUnit :=
  if inside : point - 0xd800 < 0x800 ∧ 0xd800 ≤ point then .half ⟨point - 0xd800, inside.1⟩
  else .char (Char.ofNat point)

end TextUnit

end ScorePlayback.Text

namespace ScorePlayback
open Text

structure LooseText where
  units : List TextUnit
deriving DecidableEq, Repr, Inhabited

namespace LooseText

def ofChars (chars : List Char) : LooseText := ⟨chars.map .char⟩

def ofString (text : String) : LooseText := ofChars text.toList

instance : Coe String LooseText := ⟨ofString⟩

instance : Append LooseText := ⟨fun first second => ⟨first.units ++ second.units⟩⟩

/-- The characters of a text, if it is whole. -/
def chars? (text : LooseText) : Option (List Char) := text.units.mapM TextUnit.char?

/-- The text as a string, if it is whole. -/
def string? (text : LooseText) : Option String := text.chars?.map .ofList

/-- The text as a string, with the replacement character for what is broken. -/
def mended (text : LooseText) : String :=
  .ofList (text.units.map fun unit => unit.char?.getD '\ufffd')

def isEmpty (text : LooseText) : Bool := text.units.isEmpty

/-- The texts of the single units. -/
def singles (text : LooseText) : List LooseText := text.units.map fun unit => ⟨[unit]⟩

theorem chars?_ofChars (chars : List Char) : (ofChars chars).chars? = some chars := by
  unfold chars? ofChars
  induction chars with
  | nil => rfl
  | cons c rest ih => simp_all [TextUnit.char?]

theorem eq_ofChars_of_chars? {text : LooseText} {chars : List Char}
    (whole : text.chars? = some chars) : text = ofChars chars := by
  obtain ⟨units⟩ := text
  unfold chars? at whole
  induction units generalizing chars with
  | nil =>
    cases whole
    rfl
  | cons unit rest ih =>
    cases unit with
    | half => cases whole
    | char c =>
      rw [List.mapM_cons] at whole
      obtain ⟨first, here, whole⟩ := Option.bind_eq_some_iff.mp whole
      obtain ⟨more, found, whole⟩ := Option.bind_eq_some_iff.mp whole
      cases here
      cases whole
      have same := congrArg LooseText.units (ih found)
      exact congrArg LooseText.mk (congrArg (TextUnit.char c :: ·) same)

theorem string?_ofString (text : String) : (ofString text).string? = some text := by
  simp [string?, ofString, chars?_ofChars]

end LooseText

end ScorePlayback
