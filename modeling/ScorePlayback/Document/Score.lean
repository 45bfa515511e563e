import ScorePlayback.Document.Duration
import ScorePlayback.Notation.Score
import ScorePlayback.Number.DecimalText

/-! Scores read from documents. Notes are numbered in the order in which they are built, and a tie
is linked when its end is met: to the note of the same letter and octave that last began one. There
is room for so many levels of nesting. -/

namespace ScorePlayback.Document

abbrev Fields := List (LooseText × Value)

/-- The number for the next note, the notes that await the end of a tie, and the links made. -/
structure Ties where
  nextId : Nat := 0
  started : List ((Letter × Int) × Nat) := []
  links : List (Nat × Nat) := []
deriving Repr

def refuse (room : Nat) (error : FormatError) : Except LoadError α := .error (error.raised room)

/-- A reading whose complaints are raised. -/
def raising (room : Nat) (result : Except FormatError α) : Except LoadError α :=
  result.mapError (·.raised room)

/-- The room that is left among the entries of a list: those are two levels further down. -/
def enter (room : Nat) : Except LoadError Nat :=
  if room < 2 then .error (.limit .nesting) else .ok (room - 2)

def field? (fields : Fields) (key : LooseText) : Option Value := fields.lookup key

def field (fields : Fields) (key : LooseText) (absent : Value) : Value :=
  (field? fields key).getD absent

def wholeNumber (fields : Fields) (key : String) : Except FormatError Int :=
  match field fields key (.int 0) with
  | .int value => .ok value
  | value => .error (.wholeNumber key value)

/-- The names and signs of accidentals. -/
def accidentalNames : List (String × Accidental) := [
  ("natural", .natural), ("sharp", .sharp), ("flat", .flat),
  ("double-sharp", .doubleSharp), ("double-flat", .doubleFlat),
  ("half-sharp", .halfSharp), ("half-flat", .halfFlat),
  ("=", .natural), ("^", .sharp), ("_", .flat), ("^^", .doubleSharp), ("__", .doubleFlat)]

def accidentalFor? (name : String) : Option Accidental := accidentalNames.lookup name

def accidental (value : Value) : Except FormatError (Option Accidental) :=
  match value with
  | .null => .ok none
  | value =>
    match (Text.lower (Text.strip value.nameText)).string?.bind accidentalFor? with
    | some accidental => .ok (some accidental)
    | none => .error (.accidental value)

/-! Ties -/

/-- What the tie field of a note says. -/
inductive TieMark
  | absent
  | start
  | stop
  | through
deriving DecidableEq, Repr

namespace TieMark

def begins : TieMark → Bool
  | start => true
  | through => true
  | _ => false

def ends : TieMark → Bool
  | stop => true
  | through => true
  | _ => false

def ofValue (value : Value) : Except FormatError TieMark :=
  match value with
  | .null => .ok absent
  | .string word =>
    if word = "start" then .ok start
    else if word = "end" then .ok stop
    else if word = "continue" then .ok through
    else .error (.tie value)
  | value => .error (.tie value)

end TieMark

namespace Ties

def begin (ties : Ties) (place : Letter × Int) (id : Nat) : Ties :=
  { ties with started := (place, id) :: ties.started.filter (·.1 != place) }

/-- Links the awaiting note of a place to the one that ends its tie. -/
def finish? (ties : Ties) (place : Letter × Int) (id : Nat) : Option Ties :=
  (ties.started.lookup place).map fun start =>
    { ties with
      started := ties.started.filter (·.1 != place)
      links := (start, id) :: ties.links }

/-- Marks a note as its tie field says. An end without a start is an error. -/
def mark (ties : Ties) (mark : TieMark) (note : Note) : Except FormatError (Note × Ties) := do
  let place := (note.letter, note.octave)
  let ties ← if mark.ends then (ties.finish? place note.id).elim (.error (.tieEnd note)) .ok
    else .ok ties
  let ties := if mark.begins then ties.begin place note.id else ties
  return ({ note with beginsTie := mark.begins, endsTie := mark.ends }, ties)

def linked (ties : Ties) (note : Note) : Note := { note with tiedTo := ties.links.lookup note.id }

def linkedItem (ties : Ties) : Item → Item
  | .note note => .note (ties.linked note)
  | .chord chord => .chord { chord with notes := chord.notes.map ties.linked }
  | item => item

end Ties

/-! Notes -/

/-- The fields of a note that stand for themselves, in the order in which they are checked. -/
structure NoteFields where
  octave : Int
  accidental : Option Accidental
  duration : Nat
  isRest : Bool
  transposition : Int

def noteFields (fields : Fields) : Except FormatError NoteFields := do
  let octave ← wholeNumber fields "octave"
  let accidental ← accidental (field fields "accidental" .null)
  let duration ← units (field fields "duration" (.int quarterUnits))
  let transposition ← wholeNumber fields "transpose"
  let isRest := (field fields "type" .null).isText "rest"
  return { octave, accidental, duration, isRest, transposition }

def letter (fields : Fields) : Except FieldFault Letter :=
  match field fields "pitch" (.string "C") with
  | .string name =>
    match Letter.ofText? name with
    | some letter => .ok letter
    | none => .error (.letter (Text.upper name))
  | value => .error (.notText value)

/-- The fault of using a value that is no object as a note. -/
def notNote (value : Value) : FormatError := .note value (.notObject value)

mutual

/-- A note from its fields. Its grace notes are built before it, and they tie to nothing. -/
def readNote (room : Nat) (ties : Ties) (isGrace : Bool) : Value → Except LoadError (Note × Ties)
  | .object fields => do
    let read ← raising room (noteFields fields)
    let (grace, ties) ← readGrace room ties (.object fields) fields
    let letter ← raising room ((letter fields).mapError (.note (.object fields)))
    let note : Note := {
      id := ties.nextId, letter, octave := read.octave, accidental := read.accidental,
      duration := read.duration, isRest := read.isRest, transposition := read.transposition,
      grace }
    let ties := { ties with nextId := ties.nextId + 1 }
    if isGrace then return (note, ties)
    else
      let mark ← raising room (TieMark.ofValue (field fields "tie" .null))
      raising room (ties.mark mark note)
  | data => refuse room (notNote data)

/-- The grace notes among the fields that are left, if they are there. -/
def readGrace (room : Nat) (ties : Ties) (data : Value) :
    Fields → Except LoadError (List Note × Ties)
  | [] => .ok ([], ties)
  | (key, value) :: rest =>
    if key = "grace" then readGraceValue room ties data value else readGrace room ties data rest

def readGraceValue (room : Nat) (ties : Ties) (data : Value) :
    Value → Except LoadError (List Note × Ties)
  | .array items => do readNotes (← enter room) ties true items
  | value =>
    match value.parts? with
    | some [] => .ok ([], ties)
    | some (first :: _) => do refuse (← enter room) (notNote first)
    | none => refuse room (.note data (.notIterable value))

def readNotes (room : Nat) (ties : Ties) (isGrace : Bool) :
    List Value → Except LoadError (List Note × Ties)
  | [] => .ok ([], ties)
  | item :: rest => do
    let (note, ties) ← readNote room ties isGrace item
    let (notes, ties) ← readNotes room ties isGrace rest
    return (note :: notes, ties)

end

/-! Other items -/

def chord (room : Nat) (ties : Ties) (fields : Fields) : Except LoadError (Chord × Ties) :=
  let notes := field fields "notes" .null
  if notes.isEmpty then refuse room .emptyChord
  else
    match notes with
    | .array items => do
      let (notes, ties) ← readNotes (← enter room) ties false items
      return (⟨notes⟩, ties)
    | value =>
      match value.parts? with
      | some (first :: _) => do refuse (← enter room) (notNote first)
      | _ => .error (.chordNotes value)

def barLine (fields : Fields) : Except FormatError BarLine :=
  let value := field fields "bar" (.string "|")
  match value with
  | .string sign => (BarLine.ofSign? sign).elim (.error (.barLine value)) .ok
  | value => .error (.barLine value)

/-- A pass number: a whole number, the whole part of another one, or a text of one. -/
def passNumber (room : Nat) (data value : Value) : Except LoadError Int :=
  match value with
  | .int number => .ok number
  | .bool flag => .ok (if flag then 1 else 0)
  | .float number =>
    match number.truncate with
    | .ok whole => .ok whole
    | .error .nan => refuse room (.ending data .wholeOfNaN)
    | .error .infinite => .error .infinitePass
  | .string text =>
    match Numeral.ofText text with
    | .ok number => .ok number
    | .error .notNumeral => refuse room (.ending data (.wholeNumeral value))
    | .error (.tooManyDigits count) => refuse room (.ending data (.limit (.digitsRead count)))
  | value => refuse room (.ending data (.notWhole value))

/-- The values that an ending's numbers are read from: a number alone, or the parts of a value. -/
def passValues (room : Nat) (data value : Value) : Except LoadError (List Value) :=
  match value with
  | .int number => .ok [.int number]
  | .bool flag => .ok [.bool flag]
  | value => value.parts?.elim (refuse room (.ending data (.notIterable value))) .ok

def ending (room : Nat) (fields : Fields) : Except LoadError Ending := do
  let data := Value.object fields
  let values ← passValues room data (field fields "numbers" (.array [.int 1]))
  let numbers ← values.mapM (passNumber room data)
  raising room ((Ending.ofNumbers .simple numbers).mapError (.ending data <| .impossible ·))

/-- A number of fifths has precedence over a name. -/
def key (fields : Fields) : Except FormatError KeySignature :=
  let data := Value.object fields
  match field? fields "fifths" with
  | some (.int fifths) =>
    (KeySignature.ofFifths fifths).mapError (.key data <| .impossible ·)
  | some value => .error (.key data (.fifths value))
  | none =>
    (KeySignature.ofName (field fields "name" (.string "C")).nameText).mapError
      (.key data <| .impossible ·)

def tempoValue (room : Nat) (data value : Value) : Except LoadError Binary64 :=
  match value with
  | .float number => .ok number
  | .int number => (Binary64.ofWhole number).mapError fun _ => .tempoTooLarge
  | .bool flag => .ok (Binary64.ofInt (if flag then 1 else 0))
  | .string text =>
    match Binary64.ofText? text with
    | some number => .ok number
    | none => refuse room (.tempo data (.realNumeral value))
  | value => refuse room (.tempo data (.notReal value))

def tempo (room : Nat) (fields : Fields) : Except LoadError Tempo := do
  let data := Value.object fields
  match field? fields "value" with
  | none => refuse room (.noTempoValue data)
  | some value =>
    let value ← tempoValue room data value
    let reference ← raising room (units (field fields "reference" (.int quarterUnits)))
    let marked := Tempo.ofValues (.real value) (.whole reference)
    raising room (marked.mapError (.tempo data <| .impossible ·))

/-- An item of the kind that its type names. -/
def readItem (room : Nat) (ties : Ties) (value : Value) : Except LoadError (Item × Ties) :=
  match value with
  | .object fields =>
    match field fields "type" .null with
    | .string type =>
      if type = "note" || type = "rest" then do
        let (note, ties) ← readNote room ties false value
        return (.note note, ties)
      else if type = "chord" then do
        let (chord, ties) ← chord room ties fields
        return (.chord chord, ties)
      else if type = "bar" then do
        return (.bar (.line (← raising room (barLine fields))), ties)
      else if type = "ending" then do
        return (.bar (.ending (← ending room fields)), ties)
      else if type = "key" then do
        return (.key (← raising room (key fields)), ties)
      else if type = "tempo" then do
        return (.tempo (← tempo room fields), ties)
      else refuse room (.itemType (.string type))
    | type => refuse room (.itemType type)
  | value => refuse room (.itemNotObject value)

def readItems (room : Nat) (ties : Ties) : List Value → Except LoadError (List Item × Ties)
  | [] => .ok ([], ties)
  | value :: rest => do
    let (item, ties) ← readItem room ties value
    let (items, ties) ← readItems room ties rest
    return (item :: items, ties)

/-- The score that a document describes. -/
def score (room : Nat) (document : Value) : Except LoadError Score :=
  match document.field? "items" with
  | some (.array items) => do
    let (items, ties) ← readItems (← enter room) {} items
    return ⟨items.map ties.linkedItem⟩
  | _ => refuse room .noItems

/-- The score in the bytes of a file. -/
def ofBytes (room : Nat) (name : LooseText) (bytes : List UInt8) : Except LoadError Score :=
  match Text.Utf8.decode bytes with
  | .error fault => refuse room (.file name (.text fault))
  | .ok text =>
    let text := Text.unifyLineEnds text
    match Json.read room text with
    | .error (.unexpected fault) => refuse room (.file name (.document fault text))
    | .error (.limit limit) => .error (.limit limit)
    | .ok document => score room document

end ScorePlayback.Document
