import ScorePlayback.Json.Value
import ScorePlayback.Text.LineEnds

/-! Document text read into values. A fault names what was expected and the number of the
character at which reading stopped. Besides decimal numbers the three names `NaN`, `Infinity` and
`-Infinity` are read; a key that is repeated keeps its first place and takes its last value. -/

namespace ScorePlayback.Json

inductive Expectation
  | value
  | fieldName
  | colon
  | comma
  | noMoreText
  | closingQuote
  | noControl
  | escape
  | unicodeEscape
  | noByteOrderMark
deriving DecidableEq, Repr

def Expectation.text : Expectation → String
  | value => "Expecting value"
  | fieldName => "Expecting property name enclosed in double quotes"
  | colon => "Expecting ':' delimiter"
  | comma => "Expecting ',' delimiter"
  | noMoreText => "Extra data"
  | closingQuote => "Unterminated string starting at"
  | noControl => "Invalid control character at"
  | escape => "Invalid \\escape"
  | unicodeEscape => "Invalid \\uXXXX escape"
  | noByteOrderMark => "Unexpected UTF-8 BOM (decode using utf-8-sig)"

structure Fault where
  expected : Expectation
  position : Nat
deriving DecidableEq, Repr

def Fault.text (fault : Fault) (document : List Char) : String :=
  let line := Text.lineOf document fault.position
  let column := Text.columnOf document fault.position
  s!"{fault.expected.text}: line {line} column {column} (char {fault.position})"

/-- What was read, and the text after it with the number of its first character. -/
structure Parsed (α : Type) where
  value : α
  position : Nat
  rest : List Char

/-- Why reading stopped: at something unexpected, or at a limit. -/
inductive Stop
  | unexpected (fault : Fault)
  | limit (limit : Limit)
deriving DecidableEq, Repr

abbrev Outcome (α : Type) := Except Stop (Parsed α)

def isSpace (c : Char) : Bool := c = ' ' || c = '\t' || c = '\n' || c = '\r'

def skipSpace (position : Nat) (text : List Char) : Nat × List Char :=
  (position + (text.takeWhile isSpace).length, text.dropWhile isSpace)

def fail (expected : Expectation) (position : Nat) : Outcome α :=
  .error (.unexpected ⟨expected, position⟩)

/-! Strings -/

def hexValue? (c : Char) : Option Nat :=
  if '0' ≤ c && c ≤ '9' then some (c.toNat - 48)
  else if 'a' ≤ c && c ≤ 'f' then some (c.toNat - 87)
  else if 'A' ≤ c && c ≤ 'F' then some (c.toNat - 55)
  else none

def simpleEscape? (c : Char) : Option Char :=
  if c = '\x22' || c = '\\' || c = '/' then some c
  else if c = 'b' then some '\x08'
  else if c = 'f' then some '\x0c'
  else if c = 'n' then some '\n'
  else if c = 'r' then some '\r'
  else if c = 't' then some '\t'
  else none

def isHighHalf (unit : Nat) : Bool := 0xd800 ≤ unit && unit < 0xdc00

def isLowHalf (unit : Nat) : Bool := 0xdc00 ≤ unit && unit < 0xe000

def pairChar (high low : Nat) : Char :=
  Char.ofNat (0x10000 + (high - 0xd800) * 0x400 + (low - 0xdc00))

/-- Where the reader of a string stands. `digits` awaits more digits of the escape whose `u` is at
`mark`; a first half that another escape may complete is kept as `high`. -/
inductive StringState
  | plain
  | escape
  | digits (mark left unit : Nat) (high : Option Nat)
  | pairEscape (high : Nat)
  | pairMark (high : Nat)

/-- Whether another numbered escape with a character after it follows. -/
def escapeFollows : List Char → Bool
  | '\\' :: 'u' :: _ :: _ :: _ :: _ :: _ :: _ => true
  | _ => false

/-- What a finished escape adds to the characters read, and how to go on. -/
def finishEscape (unit : Nat) (high : Option Nat) (read : List Text.TextUnit) (rest : List Char) :
    List Text.TextUnit × StringState :=
  match high with
  | some first =>
    if isLowHalf unit then (.char (pairChar first unit) :: read, .plain)
    else if isHighHalf unit && escapeFollows rest then (.ofPoint first :: read, .pairEscape unit)
    else (.ofPoint unit :: .ofPoint first :: read, .plain)
  | none =>
    if isHighHalf unit && escapeFollows rest then (read, .pairEscape unit)
    else (.ofPoint unit :: read, .plain)

/-- Reads to the closing quotation mark. `start` is the place of the opening one, and `read` holds
the characters so far, the latest first. -/
def readStringFrom (start : Nat) (read : List Text.TextUnit) :
    StringState → Nat → List Char → Outcome (List Text.TextUnit)
  | .plain, _, [] => fail .closingQuote start
  | .escape, _, [] => fail .closingQuote start
  | .digits mark _ _ _, _, [] => fail .unicodeEscape mark
  | .pairEscape _, _, [] => fail .closingQuote start
  | .pairMark _, _, [] => fail .closingQuote start
  | .plain, position, c :: rest =>
    if c = '\x22' then .ok ⟨read.reverse, position + 1, rest⟩
    else if c = '\\' then readStringFrom start read .escape (position + 1) rest
    else if c.toNat < 0x20 then fail .noControl position
    else readStringFrom start (.char c :: read) .plain (position + 1) rest
  | .escape, position, c :: rest =>
    if c = 'u' then readStringFrom start read (.digits position 4 0 none) (position + 1) rest
    else
      match simpleEscape? c with
      | some escaped => readStringFrom start (.char escaped :: read) .plain (position + 1) rest
      | none => fail .escape (position - 1)
  | .digits mark left unit high, position, c :: rest =>
    match hexValue? c with
    | none => fail .unicodeEscape mark
    | some digit =>
      let unit := unit * 16 + digit
      if 1 < left then
        readStringFrom start read (.digits mark (left - 1) unit high) (position + 1) rest
      else if rest.isEmpty then fail .unicodeEscape mark
      else
        let (read, state) := finishEscape unit high read rest
        readStringFrom start read state (position + 1) rest
  | .pairEscape high, position, _ :: rest =>
    readStringFrom start read (.pairMark high) (position + 1) rest
  | .pairMark high, position, _ :: rest =>
    readStringFrom start read (.digits position 4 0 (some high)) (position + 1) rest

/-! Numbers -/

def digitsValue (digits : List Char) : Nat :=
  digits.foldl (fun value c => value * 10 + (c.toNat - 48)) 0

/-- The whole part of a number: a zero alone, or digits that do not start with one. -/
def wholeDigits? : List Char → Option (List Char × List Char)
  | '0' :: rest => some (['0'], rest)
  | c :: rest =>
    if c.isDigit then some (c :: rest.takeWhile Char.isDigit, rest.dropWhile Char.isDigit)
    else none
  | [] => none

/-- The digits after a point, if there are any. -/
def decimalDigits : List Char → List Char × List Char
  | '.' :: rest =>
    let digits := rest.takeWhile Char.isDigit
    if digits.isEmpty then ([], '.' :: rest) else (digits, rest.dropWhile Char.isDigit)
  | text => ([], text)

/-- The exponent's sign, digits and number of characters, if there are digits. -/
def exponentPart? : List Char → Option (Bool × List Char × Nat)
  | c :: rest =>
    if c = 'e' || c = 'E' then
      let (negative, signs, unsigned) :=
        match rest with
        | '-' :: rest => (true, 1, rest)
        | '+' :: rest => (false, 1, rest)
        | rest => (false, 0, rest)
      let digits := unsigned.takeWhile Char.isDigit
      if digits.isEmpty then none else some (negative, digits, 1 + signs + digits.length)
    else none
  | [] => none

def readNumber (position : Nat) (text : List Char) : Outcome Value :=
  let (negative, unsigned) :=
    match text with
    | '-' :: rest => (true, rest)
    | text => (false, text)
  match wholeDigits? unsigned with
  | none => fail .value position
  | some (whole, afterWhole) =>
    let (decimals, afterDecimals) := decimalDigits afterWhole
    let exponent := exponentPart? afterDecimals
    let signed (n : Nat) : Int := Binary64.withSign negative n
    let width := (if negative then 1 else 0) + whole.length
      + (if decimals.isEmpty then 0 else 1 + decimals.length)
    match exponent with
    | none =>
      if decimals.isEmpty then
        if maxDigits < whole.length then .error (.limit (.digitsRead whole.length))
        else .ok ⟨.int (signed (digitsValue whole)), position + width, afterDecimals⟩
      else
        let digits := digitsValue (whole ++ decimals)
        let value := Binary64.ofDecimal negative digits (-decimals.length)
        .ok ⟨.float value, position + width, afterDecimals⟩
    | some (below, digits, extra) =>
      let value := Binary64.ofDecimal negative (digitsValue (whole ++ decimals))
        (Binary64.withSign below (digitsValue digits) - decimals.length)
      .ok ⟨.float value, position + width + extra, afterDecimals.drop extra⟩

/-! Values -/

/-- A word of the format with its value. -/
def words : List (List Char × Value) := [
  ("null".toList, .null), ("true".toList, .bool true), ("false".toList, .bool false),
  ("NaN".toList, .float .nan), ("Infinity".toList, .float (.infinite false)),
  ("-Infinity".toList, .float (.infinite true))]

def readWord? (position : Nat) (text : List Char) : Option (Parsed Value) :=
  (words.find? fun word => word.1.isPrefixOf text).map fun word =>
    ⟨word.2, position + word.1.length, text.drop word.1.length⟩

/-- A field already present takes the new value where it is. -/
def putField (key : LooseText) (value : Value) :
    List (LooseText × Value) → List (LooseText × Value)
  | [] => [(key, value)]
  | (other, old) :: rest =>
    if other = key then (key, value) :: rest else (other, old) :: putField key value rest

mutual

/-- Every call but the first of a bracket's two takes a character, so twice the length of the
text is fuel enough. There is room for so many brackets one inside another. -/
def readValue : Nat → Nat → Nat → List Char → Outcome Value
  | 0, _, position, _ => fail .value position
  | fuel + 1, room, position, text =>
    match text with
    | [] => fail .value position
    | c :: rest =>
      if c = '\x22' then
        (readStringFrom position [] .plain (position + 1) rest).map fun parsed =>
          { parsed with value := .string ⟨parsed.value⟩ }
      else if (c = '\x7b' || c = '[') && room = 0 then .error (.limit .nesting)
      else if c = '\x7b' then
        let (position, rest) := skipSpace (position + 1) rest
        match rest with
        | '\x7d' :: rest => .ok ⟨.object [], position + 1, rest⟩
        | rest => readFields fuel (room - 1) [] position rest
      else if c = '[' then
        let (position, rest) := skipSpace (position + 1) rest
        match rest with
        | ']' :: rest => .ok ⟨.array [], position + 1, rest⟩
        | rest => readItems fuel (room - 1) [] position rest
      else
        match readWord? position text with
        | some parsed => .ok parsed
        | none => readNumber position text

/-- `read` holds the items so far, the latest first. -/
def readItems : Nat → Nat → List Value → Nat → List Char → Outcome Value
  | 0, _, _, position, _ => fail .value position
  | fuel + 1, room, read, position, text =>
    match readValue fuel room position text with
    | .error fault => .error fault
    | .ok item =>
      let (position, rest) := skipSpace item.position item.rest
      match rest with
      | ']' :: rest => .ok ⟨.array (item.value :: read).reverse, position + 1, rest⟩
      | ',' :: rest =>
        let (position, rest) := skipSpace (position + 1) rest
        readItems fuel room (item.value :: read) position rest
      | _ => fail .comma position

def readFields : Nat → Nat → List (LooseText × Value) → Nat → List Char → Outcome Value
  | 0, _, _, position, _ => fail .fieldName position
  | fuel + 1, room, read, position, text =>
    match text with
    | '\x22' :: rest =>
      match readStringFrom position [] .plain (position + 1) rest with
      | .error fault => .error fault
      | .ok key =>
        let (position, rest) := skipSpace key.position key.rest
        match rest with
        | ':' :: rest =>
          let (position, rest) := skipSpace (position + 1) rest
          match readValue fuel room position rest with
          | .error fault => .error fault
          | .ok item =>
            let fields := putField ⟨key.value⟩ item.value read
            let (position, rest) := skipSpace item.position item.rest
            match rest with
            | '\x7d' :: rest => .ok ⟨.object fields, position + 1, rest⟩
            | ',' :: rest =>
              let (position, rest) := skipSpace (position + 1) rest
              readFields fuel room fields position rest
            | _ => fail .comma position
        | _ => fail .colon position
    | _ => fail .fieldName position

end

/-- A whole document: one value with nothing but space around it. -/
def read (room : Nat) (text : List Char) : Except Stop Value :=
  match text with
  | '\ufeff' :: _ => .error (.unexpected ⟨.noByteOrderMark, 0⟩)
  | text =>
    let (position, rest) := skipSpace 0 text
    match readValue (2 * text.length + 2) room position rest with
    | .error stop => .error stop
    | .ok parsed =>
      let (position, rest) := skipSpace parsed.position parsed.rest
      if rest.isEmpty then .ok parsed.value else .error (.unexpected ⟨.noMoreText, position⟩)

end ScorePlayback.Json
