import ScorePlayback.Json.Value
import ScorePlayback.Log
import ScorePlayback.Number.Numeral
import ScorePlayback.Text.LetterCase

/-! Instruments, the banks that hold them, and looking them up by program number or name. -/

namespace ScorePlayback

/-- The program is kept as it was given, and need not be a number. -/
structure Instrument where
  name : LooseText
  program : Value
deriving BEq, Repr, Inhabited

/-- The names of the 128 melodic programs of General MIDI, in the order of their numbers. -/
def generalMidiNames : List String := [
  "Acoustic Grand Piano", "Bright Acoustic Piano", "Electric Grand Piano", "Honky-tonk Piano",
  "Electric Piano 1", "Electric Piano 2", "Harpsichord", "Clavinet",
  "Celesta", "Glockenspiel", "Music Box", "Vibraphone",
  "Marimba", "Xylophone", "Tubular Bells", "Dulcimer",
  "Drawbar Organ", "Percussive Organ", "Rock Organ", "Church Organ",
  "Reed Organ", "Accordion", "Harmonica", "Tango Accordion",
  "Acoustic Guitar (nylon)", "Acoustic Guitar (steel)", "Electric Guitar (jazz)",
  "Electric Guitar (clean)", "Electric Guitar (muted)", "Overdriven Guitar",
  "Distortion Guitar", "Guitar Harmonics",
  "Acoustic Bass", "Electric Bass (finger)", "Electric Bass (pick)", "Fretless Bass",
  "Slap Bass 1", "Slap Bass 2", "Synth Bass 1", "Synth Bass 2",
  "Violin", "Viola", "Cello", "Contrabass",
  "Tremolo Strings", "Pizzicato Strings", "Orchestral Harp", "Timpani",
  "String Ensemble 1", "String Ensemble 2", "Synth Strings 1", "Synth Strings 2",
  "Choir Aahs", "Voice Oohs", "Synth Voice", "Orchestra Hit",
  "Trumpet", "Trombone", "Tuba", "Muted Trumpet",
  "French Horn", "Brass Section", "Synth Brass 1", "Synth Brass 2",
  "Soprano Sax", "Alto Sax", "Tenor Sax", "Baritone Sax",
  "Oboe", "English Horn", "Bassoon", "Clarinet",
  "Piccolo", "Flute", "Recorder", "Pan Flute",
  "Blown Bottle", "Shakuhachi", "Whistle", "Ocarina",
  "Lead 1 (square)", "Lead 2 (sawtooth)", "Lead 3 (calliope)", "Lead 4 (chiff)",
  "Lead 5 (charang)", "Lead 6 (voice)", "Lead 7 (fifths)", "Lead 8 (bass + lead)",
  "Pad 1 (new age)", "Pad 2 (warm)", "Pad 3 (polysynth)", "Pad 4 (choir)",
  "Pad 5 (bowed)", "Pad 6 (metallic)", "Pad 7 (halo)", "Pad 8 (sweep)",
  "FX 1 (rain)", "FX 2 (soundtrack)", "FX 3 (crystal)", "FX 4 (atmosphere)",
  "FX 5 (brightness)", "FX 6 (goblins)", "FX 7 (echoes)", "FX 8 (sci-fi)",
  "Sitar", "Banjo", "Shamisen", "Koto",
  "Kalimba", "Bagpipe", "Fiddle", "Shanai",
  "Tinkle Bell", "Agogo", "Steel Drums", "Woodblock",
  "Taiko Drum", "Melodic Tom", "Synth Drum", "Reverse Cymbal",
  "Guitar Fret Noise", "Breath Noise", "Seashore", "Bird Tweet",
  "Telephone Ring", "Helicopter", "Applause", "Gunshot"]

/-- What an instrument is asked for with. A truth value counts as zero or one. -/
inductive Query
  | program (number : Int)
  | flag (value : Bool)
  | text (text : LooseText)
  | other (value : Value)
deriving Repr

/-- A query as messages show it, if it can be written. -/
def Query.write : Query → Except Limit String
  | program number => writeWhole number
  | flag value => .ok (if value then "True" else "False")
  | text name => .ok (Text.quote name)
  | other value => .ok value.text

/-- Why an instrument is not to be had. What is asked for is kept as it is shown, and a bank may have
reasons of its own. -/
inductive InstrumentFault
  | emptyBank
  | noMatch (query : String)
  | outsideRange (program : String)
  | refused (reason : String)
deriving DecidableEq, Repr

def InstrumentFault.message : InstrumentFault → String
  | emptyBank => "The instrument bank has no instruments."
  | noMatch query => s!"No instrument matches {query}."
  | outsideRange program => s!"Program {program} is outside the General MIDI range 0-127."
  | refused reason => reason

/-- A text whose digits form no number is not looked up at all, and what is neither a number nor a
text cannot be compared with a name. Too many digits are neither read nor complained of. -/
inductive LookupFault
  | unavailable (fault : InstrumentFault)
  | numeral (text : LooseText)
  | notText (query : Value)
  | limit (limit : Limit)
deriving Repr

/-- A program that is no number cannot be compared with the bounds of the bank, and one of too many
digits cannot be complained of. -/
inductive LoadingFault
  | unavailable (fault : InstrumentFault)
  | notNumber (program : Value)
  | limit (limit : Limit)
deriving Repr

/-- The fault of a text that could be written, or of the limit that kept it from being. -/
def LookupFault.noMatch : Except Limit String → LookupFault
  | .ok query => .unavailable (.noMatch query)
  | .error exceeded => .limit exceeded

def LoadingFault.outsideRange : Except Limit String → LoadingFault
  | .ok program => .unavailable (.outsideRange program)
  | .error exceeded => .limit exceeded

/-- The complaint about a quoted text that is no whole number. It shows two hundred characters. -/
def numeralComplaint (quoted : String) : String :=
  "invalid literal for int() with base 10: " ++ .ofList (quoted.toList.take 200)

def LookupFault.message : LookupFault → String
  | unavailable fault => fault.message
  | numeral text => numeralComplaint (Text.quote text)
  | notText query => s!"'{query.kind}' object has no attribute 'strip'"
  | limit exceeded => exceeded.message

def notNumberMessage (program : Value) : String :=
  s!"'<=' not supported between instances of 'int' and '{program.kind}'"

def LoadingFault.message : LoadingFault → String
  | unavailable fault => fault.message
  | notNumber program => notNumberMessage program
  | limit exceeded => exceeded.message

/-- The program of General MIDI that an instrument plays. A fraction counts by its whole part. -/
def Instrument.melodicProgram (instrument : Instrument) : Except LoadingFault Nat :=
  match instrument.program with
  | .int number =>
    if 0 ≤ number ∧ number < 128 then .ok number.toNat
    else .error (.outsideRange (writeWhole number))
  | .bool flag => .ok flag.toNat
  | .float number =>
    let outside := .error (.outsideRange (.ok number.text))
    match number.truncate with
    | .ok whole =>
      if number.isNegative && !number.isZero || 128 ≤ whole then outside else .ok whole.toNat
    | .error _ => outside
  | program => .error (.notNumber program)

/-- Instruments to choose from, and how one of them is made ready to play: what comes of it, and what
is logged about it. -/
structure Bank where
  available : List Instrument
  load : Instrument → Except LoadingFault (Instrument × List Log.Record)

namespace Bank

def default? (bank : Bank) : Except InstrumentFault Instrument :=
  match bank.available with
  | [] => .error .emptyBank
  | first :: _ => .ok first

/-- What is logged about an instrument that has been made ready. -/
def loadedRecord (instrument : Instrument) (program : Nat) : Log.Record where
  severity := .debug
  source := .bank
  text := "Loaded instrument " ++ instrument.name ++ s!" (program {program})"

/-- The bank of the General MIDI programs loads no other ones. -/
def generalMidi : Bank where
  available := generalMidiNames.zipIdx.map fun (name, program) => ⟨name, .int program⟩
  load instrument :=
    instrument.melodicProgram.map fun program => (instrument, [loadedRecord instrument program])

/-- A bank that loads whatever it is asked to. -/
def lenient (available : List Instrument) : Bank where
  available
  load instrument := .ok (instrument, [])

/-- A text that is all digits, but for blanks around it, asks for a program number. -/
def asksForNumber (text : LooseText) : Bool :=
  let stripped := Text.strip text
  !stripped.isEmpty && stripped.units.all (Text.TextUnit.isChar Text.isDigit)

def matchesQuery (query : Query) (instrument : Instrument) : Bool :=
  match query with
  | .program number => instrument.program.isWhole number
  | .flag value => instrument.program.isWhole (if value then 1 else 0)
  | .text text => Text.lower instrument.name == Text.lower (Text.strip text)
  | .other _ => false

def readQuery (query : Query) : Except LookupFault Query :=
  match query with
  | .text text =>
    if asksForNumber text then
      match Numeral.ofText text with
      | .ok number => .ok (.program number)
      | .error .notNumeral => .error (.numeral text)
      | .error (.tooManyDigits count) => .error (.limit (.digitsRead count))
    else .ok query
  | query => .ok query

/-- The first instrument of the program number or, in any case, of the name asked for. -/
def find (bank : Bank) (query : Query) : Except LookupFault Instrument := do
  let query ← readQuery query
  match query, bank.available with
  | .other value, _ :: _ => throw (.notText value)
  | query, instruments =>
    match instruments.find? (matchesQuery query) with
    | some instrument => return instrument
    | none => throw (.noMatch query.write)

end Bank

end ScorePlayback
