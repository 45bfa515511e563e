import ScorePlayback.Text.Loose
import ScorePlayback.Text.Printable

/-! Text in quotation marks, as messages show it. Single marks are used unless the text holds one
and no double mark. What cannot be shown is written by its number. -/

namespace ScorePlayback.Text

def hexDigit (digit : Nat) : Char := Char.ofNat (if digit < 10 then 48 + digit else 87 + digit)

/-- The last `width` hexadecimal digits of a number. -/
def hexDigits : Nat → Nat → List Char
  | 0, _ => []
  | width + 1, number => hexDigits width (number / 16) ++ [hexDigit (number % 16)]

/-- A code point by its number, in the shortest of the three forms that holds it. -/
def escapePoint (point : Nat) : List Char :=
  if point < 0x100 then '\\' :: 'x' :: hexDigits 2 point
  else if point < 0x10000 then '\\' :: 'u' :: hexDigits 4 point
  else '\\' :: 'U' :: hexDigits 8 point

def quoteChar (mark c : Char) : List Char :=
  if c = mark || c = '\\' then ['\\', c]
  else if c = '\n' then ['\\', 'n']
  else if c = '\r' then ['\\', 'r']
  else if c = '\t' then ['\\', 't']
  else if isPrintable c then [c]
  else escapePoint c.toNat

def TextUnit.quote (mark : Char) : TextUnit → List Char
  | char c => quoteChar mark c
  | half index => escapePoint (half index).point

def quoteMark (text : LooseText) : Char :=
  if text.units.contains (.char '\x27') && !text.units.contains (.char '\x22') then '\x22'
  else '\x27'

def quote (text : LooseText) : String :=
  let mark := quoteMark text
  .ofList (mark :: (text.units.flatMap (TextUnit.quote mark) ++ [mark]))

/-- A text whose halves of pairs are written by their numbers. -/
def withEscapedHalves (text : LooseText) : String :=
  .ofList (text.units.flatMap fun
    | .char c => [c]
    | .half index => escapePoint (TextUnit.half index).point)

end ScorePlayback.Text
