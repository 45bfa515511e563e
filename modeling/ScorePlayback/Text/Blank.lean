import ScorePlayback.Text.Loose
import ScorePlayback.Text.Ranges

/-! Blank characters of all scripts, and text freed of those around it. -/

namespace ScorePlayback.Text

def blankRanges : List (Nat × Nat) := [
    (0x9, 0xd), (0x1c, 0x20), (0x85, 0x85), (0xa0, 0xa0), (0x1680, 0x1680), (0x2000, 0x200a),
    (0x2028, 0x2029), (0x202f, 0x202f), (0x205f, 0x205f), (0x3000, 0x3000)]

def isBlank (c : Char) : Bool := inRanges blankRanges c.toNat

/-- What lies between the first and the last element that `blank` does not hold of. -/
def trim (blank : α → Bool) (text : List α) : List α :=
  ((text.dropWhile blank).reverse.dropWhile blank).reverse

def strip (text : LooseText) : LooseText := ⟨trim (TextUnit.isChar isBlank) text.units⟩

end ScorePlayback.Text
