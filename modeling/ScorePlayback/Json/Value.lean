import ScorePlayback.Number.Limit
import ScorePlayback.Number.Shortest
import ScorePlayback.Text.Quoted

/-! Document values, and the text that messages show for them. -/

namespace ScorePlayback

/-- The fields of an object are in the order in which they were first written. -/
inductive Value
  | null
  | bool (value : Bool)
  | int (value : Int)
  | float (value : Binary64)
  | string (value : LooseText)
  | array (items : List Value)
  | object (fields : List (LooseText × Value))
deriving Repr, BEq, Inhabited

namespace Value

/-- The name of a value's kind in messages. -/
def kind : Value → String
  | null => "NoneType"
  | bool _ => "bool"
  | int _ => "int"
  | float _ => "float"
  | string _ => "str"
  | array _ => "list"
  | object _ => "dict"

def field? (key : LooseText) : Value → Option Value
  | object fields => fields.lookup key
  | _ => none

def int? : Value → Option Int
  | int value => some value
  | _ => none

def isText (value : Value) (text : LooseText) : Bool :=
  match value with
  | string found => found = text
  | _ => false

/-- Whether a value counts as a whole number. A truth value counts as zero or one. -/
def isWhole (value : Value) (number : Int) : Bool :=
  match value with
  | bool value => (if value then 1 else 0) == number
  | int value => value == number
  | float value => value.isWhole number
  | _ => false

/-- Zero, empty, false and absent values count as no value at all. -/
def isEmpty : Value → Bool
  | null => true
  | bool value => !value
  | int value => value == 0
  | float value => value.isZero
  | string value => value.isEmpty
  | array items => items.isEmpty
  | object fields => fields.isEmpty

mutual

/-- A value as messages show it, strings in quotation marks. -/
def text : Value → String
  | null => "None"
  | bool value => if value then "True" else "False"
  | int value => toString value
  | float value => value.text
  | string value => Text.quote value
  | array items => "[" ++ ", ".intercalate (itemTexts items) ++ "]"
  | object fields => "\x7b" ++ ", ".intercalate (fieldTexts fields) ++ "\x7d"

def itemTexts : List Value → List String
  | [] => []
  | item :: rest => item.text :: itemTexts rest

def fieldTexts : List (LooseText × Value) → List String
  | [] => []
  | (key, value) :: rest => (Text.quote key ++ ": " ++ value.text) :: fieldTexts rest

end

mutual

/-- What keeps a value from being written where so many levels of nesting are left. -/
def limit? (room : Nat) : Value → Option Limit
  | int value => if isWritable value then none else some .digitsWritten
  | array items => if room = 0 then some .nesting else itemsLimit? (room - 1) items
  | object fields => if room = 0 then some .nesting else fieldsLimit? (room - 1) fields
  | null | bool _ | float _ | string _ => none

def itemsLimit? (room : Nat) : List Value → Option Limit
  | [] => none
  | item :: rest => (item.limit? room).or (itemsLimit? room rest)

def fieldsLimit? (room : Nat) : List (LooseText × Value) → Option Limit
  | [] => none
  | (_, value) :: rest => (value.limit? room).or (fieldsLimit? room rest)

end

/-- What a value is gone through by: the items of an array, the characters of a string, the keys of
an object. -/
def parts? : Value → Option (List Value)
  | array items => some items
  | string value => some (value.singles.map string)
  | object fields => some (fields.map fun field => string field.1)
  | _ => none

/-- A value as a name: a string stands for itself. -/
def nameText : Value → LooseText
  | string value => value
  | value => value.text

end Value

end ScorePlayback
