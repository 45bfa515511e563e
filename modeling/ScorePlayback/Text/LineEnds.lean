/-! Line ends of all three kinds become the newline, and a place in a text becomes its line and
column, both counted from one. -/

namespace ScorePlayback.Text

/-- A carriage return, with the newline after it if there is one, becomes a newline. `read` holds
the characters so far, the latest first. -/
def unifyLineEndsAfter (read : List Char) : List Char → List Char
  | [] => read.reverse
  | '\r' :: '\n' :: rest => unifyLineEndsAfter ('\n' :: read) rest
  | c :: rest => unifyLineEndsAfter ((if c = '\r' then '\n' else c) :: read) rest

def unifyLineEnds (text : List Char) : List Char := unifyLineEndsAfter [] text

def lineOf (text : List Char) (position : Nat) : Nat :=
  1 + (text.take position).count '\n'

def columnOf (text : List Char) (position : Nat) : Nat :=
  1 + ((text.take position).reverse.takeWhile (· != '\n')).length

end ScorePlayback.Text
