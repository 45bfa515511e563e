import ScorePlayback.Notation.Tempo
import ScorePlayback.Text.Quoted

/-! What makes a notation value impossible. -/

namespace ScorePlayback

inductive NotationError
  | letter (name : LooseText)
  | duration (units : Int)
  | noPassNumber
  | accidentalCount (count : Nat)
  | fifths (count : Int)
  | tonic (name : LooseText)
  | mode (rest name : LooseText)
  | tempoValue (value : Number)
  | tempoReference (reference : Number)
deriving DecidableEq, Repr

/-- The complaint about a quoted text that is no note letter. -/
def letterComplaint (quoted : String) : String :=
  s!"Invalid pitch letter: {quoted}. Must be one of A-G."

def NotationError.message : NotationError → String
  | letter name => letterComplaint (Text.quote name)
  | duration units =>
    Limit.complaint (writeWhole units) fun shown => s!"Invalid duration: {shown}. Must be >= 0."
  | noPassNumber => "A numbered ending needs at least one pass number."
  | accidentalCount count => s!"A key signature needs 12 accidentals, got {count}."
  | fifths count =>
    Limit.complaint (writeWhole count) fun shown =>
      s!"Invalid number of sharps/flats: {shown}. Must be -7..7."
  | tonic name => s!"Unknown key tonic in {Text.quote name}."
  | mode rest name => s!"Unknown mode {Text.quote rest} in key {Text.quote name}."
  | tempoValue value =>
    Limit.complaint value.write fun shown => s!"Invalid tempo: {shown}. Must be > 0."
  | tempoReference reference =>
    Limit.complaint reference.write fun shown =>
      s!"Invalid tempo reference: {shown}. Must be > 0."

/-- A tempo mark of a value and a reference above zero. Either may be no number. -/
def Tempo.ofValues (value reference : Number) : Except NotationError Tempo :=
  if positive : value.isPositiveOrNaN = true then
    if referencePositive : reference.isPositiveOrNaN = true then
      .ok { value, reference, positive, referencePositive }
    else .error (.tempoReference reference)
  else .error (.tempoValue value)

end ScorePlayback
