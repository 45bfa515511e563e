import ScorePlayback.Text.CaseContext
import ScorePlayback.Text.CaseTable
import ScorePlayback.Text.Loose

/-! Upper, lower and folded forms of text in all scripts. A capital sigma that ends a word is
lowered to its final form; a few letters grow to several characters. -/

namespace ScorePlayback.Text

def CaseRun.partner? (run : CaseRun) (point : Nat) : Option Nat :=
  if run.first ≤ point && point ≤ run.last && (point - run.first) % run.step == 0 then
    some (point + run.shift).toNat
  else none

def partnerIn? (runs : List CaseRun) (point : Nat) : Option Nat :=
  runs.findSome? (CaseRun.partner? · point)

def lowerChar (c : Char) : Char :=
  ((partnerIn? lowerRuns c.toNat).map Char.ofNat).getD c

def upperChar (c : Char) : List Char :=
  match upperExpansions.lookup c.toNat with
  | some points => points.map Char.ofNat
  | none => [((partnerIn? upperRuns c.toNat).map Char.ofNat).getD c]

def foldChar (c : Char) : List Char :=
  match foldExpansions.lookup c.toNat with
  | some points => points.map Char.ofNat
  | none => [((partnerIn? foldRuns c.toNat).map Char.ofNat).getD (lowerChar c)]

/-- Whether the nearest unit that is not case-ignorable is cased. -/
def touchesWord (nearby : List TextUnit) : Bool :=
  ((nearby.find? fun unit => !unit.isChar isCaseIgnorable).map (TextUnit.isChar isCased)).getD false

def lowerUnit (before rest : List TextUnit) : TextUnit → List TextUnit
  | .half index => [.half index]
  | .char c =>
    if c = '\u03a3' then
      [.char (if touchesWord before && !touchesWord rest then '\u03c2' else '\u03c3')]
    else if c = '\u0130' then [.char 'i', .char '\u0307']
    else [.char (lowerChar c)]

/-- `before` holds the units that were passed, the nearest first. -/
def lowerAfter (before : List TextUnit) : List TextUnit → List TextUnit
  | [] => []
  | unit :: rest => lowerUnit before rest unit ++ lowerAfter (unit :: before) rest

def lower (text : LooseText) : LooseText := ⟨lowerAfter [] text.units⟩

/-- Every character becomes what `change` makes of it; halves of pairs stay. -/
def mapChars (change : Char → List Char) (text : LooseText) : LooseText :=
  ⟨text.units.flatMap fun
    | .char c => (change c).map .char
    | .half index => [.half index]⟩

def upper (text : LooseText) : LooseText := mapChars upperChar text

/-- The form in which texts are compared without regard to case. -/
def fold (text : LooseText) : LooseText := mapChars foldChar text

end ScorePlayback.Text
