import ScorePlayback.Json.Reader
import ScorePlayback.Midi.Instrument
import ScorePlayback.Notation.Note
import ScorePlayback.Number.Fraction
import ScorePlayback.Text.Utf8

/-! What can be wrong with a score document. Most faults make the document malformed; three kinds
of value are faults of their own, because they stop the reading in another way, and so does a limit
that is exceeded on the way or by the complaint itself. -/

namespace ScorePlayback

/-- Why a value is of no use in its place. -/
inductive FieldFault
  | notText (value : Value)
  | notObject (value : Value)
  | notIterable (value : Value)
  | notWhole (value : Value)
  | notReal (value : Value)
  | wholeNumeral (value : Value)
  | realNumeral (value : Value)
  | letter (upper : LooseText)
  | wholeOfNaN
  | fifths (value : Value)
  | impossible (error : NotationError)
  | limit (limit : Limit)
deriving Repr

/-- Why a file holds no document. -/
inductive FileContentFault
  | text (fault : Text.Utf8.Fault)
  | document (fault : Json.Fault) (document : List Char)
deriving Repr

inductive FormatError
  | noItems
  | itemNotObject (value : Value)
  | itemType (type : Value)
  | wholeNumber (field : String) (value : Value)
  | duration (value : Value) (cause : Option Fraction.Fault)
  | durationGrid (value : Value)
  | durationNegative (value : Value)
  | accidental (value : Value)
  | tie (value : Value)
  | tieEnd (note : Note)
  | note (data : Value) (cause : FieldFault)
  | emptyChord
  | barLine (value : Value)
  | ending (data : Value) (cause : FieldFault)
  | key (data : Value) (cause : FieldFault)
  | noTempoValue (data : Value)
  | tempo (data : Value) (cause : FieldFault)
  | file (name : LooseText) (cause : FileContentFault)
deriving Repr

inductive LoadError
  | malformed (error : FormatError)
  | chordNotes (value : Value)
  | infinitePass
  | tempoTooLarge
  | limit (limit : Limit)
deriving Repr

def wholeNumberMessage (field : String) (value : Value) : String :=
  s!"'{field}' must be a whole number, got {value.text}."

def notIterableMessage (value : Value) : String := s!"'{value.kind}' object is not iterable"

def FieldFault.message : FieldFault → String
  | notText value => s!"'{value.kind}' object has no attribute 'upper'"
  | notObject value => s!"'{value.kind}' object has no attribute 'get'"
  | notIterable value => notIterableMessage value
  | notWhole value =>
    "int() argument must be a string, a bytes-like object or a real number, " ++
      s!"not '{value.kind}'"
  | notReal value => s!"float() argument must be a string or a real number, not '{value.kind}'"
  | wholeNumeral value => numeralComplaint value.text
  | realNumeral value => s!"could not convert string to float: {value.text}"
  | letter upper => letterComplaint (Text.quote upper)
  | wholeOfNaN => ArithmeticFault.wholeOfNaN.message
  | fifths value => wholeNumberMessage "fifths" value
  | impossible error => error.message
  | limit exceeded => exceeded.message

def Text.Utf8.Fault.message (fault : Text.Utf8.Fault) : String :=
  let place :=
    if fault.count = 1 then
      let byte := String.ofList (Text.hexDigits 2 fault.lead.toNat)
      s!"byte 0x{byte} in position {fault.start}"
    else s!"bytes in position {fault.start}-{fault.start + fault.count - 1}"
  s!"'utf-8' codec can't decode {place}: {fault.reason.text}"

def FileContentFault.message : FileContentFault → String
  | text fault => fault.message
  | document fault source => fault.text source

/-- The words for the ends and the middle of a tie. -/
def tieWords : List String := ["start", "end", "continue"]

def FormatError.message : FormatError → LooseText
  | noItems => "A score document needs an 'items' list."
  | itemNotObject value => s!"Score items must be objects, got {value.text}."
  | itemType type => s!"Unknown item type {type.text}."
  | wholeNumber field value => wholeNumberMessage field value
  | duration value _ => s!"Invalid duration: {value.text}."
  | durationGrid value => s!"Duration {value.text} is finer than the unit grid."
  | durationNegative value => s!"Invalid duration: {value.text}. Must be >= 0."
  | accidental value => s!"Unknown accidental: {value.text}."
  | tie value =>
    let words := ", ".intercalate tieWords
    s!"Invalid tie value {value.text}. Use one of: {words}."
  | tieEnd last =>
    Limit.complaint last.text fun shown => s!"Tie end on {shown} has no matching tie start."
  | note data cause => s!"Invalid note {data.text}: {cause.message}"
  | emptyChord => "A chord needs at least one note."
  | barLine value => s!"Unknown bar line {value.text}."
  | ending data cause => s!"Invalid ending {data.text}: {cause.message}"
  | key data cause => s!"Invalid key signature {data.text}: {cause.message}"
  | noTempoValue data => s!"Tempo {data.text} has no value."
  | tempo data cause => s!"Invalid tempo {data.text}: {cause.message}"
  | file name cause => name ++ s!" is not a UTF-8 JSON document: {cause.message}"

def LoadError.message : LoadError → LooseText
  | malformed error => error.message
  | chordNotes value => notIterableMessage value
  | infinitePass => ArithmeticFault.wholeOfInfinity.message
  | tempoTooLarge => ArithmeticFault.wholeTooLarge.message
  | limit exceeded => exceeded.message

namespace FormatError

/-- The value that a complaint shows. -/
def shown? : FormatError → Option Value
  | itemNotObject value => some value
  | itemType type => some type
  | wholeNumber _ value => some value
  | duration value _ => some value
  | durationGrid value => some value
  | durationNegative value => some value
  | accidental value => some value
  | tie value => some value
  | note data _ => some data
  | barLine value => some value
  | ending data _ => some data
  | key data _ => some data
  | noTempoValue data => some data
  | tempo data _ => some data
  | noItems | tieEnd _ | emptyChord | file _ _ => none

/-- What keeps a complaint from being written where so many levels of nesting are left. -/
def limit? (room : Nat) : FormatError → Option Limit
  | tieEnd last =>
    match last.text with
    | .ok _ => none
    | .error limit => some limit
  | error => error.shown?.bind (Value.limit? room)

/-- The complaint, or the limit that keeps it from being written. -/
def raised (room : Nat) (error : FormatError) : LoadError :=
  match error.limit? room with
  | none => .malformed error
  | some limit => .limit limit

end FormatError

end ScorePlayback
