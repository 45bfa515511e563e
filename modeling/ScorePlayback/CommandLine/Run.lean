import ScorePlayback.CommandLine.Disk
import ScorePlayback.CommandLine.Path
import ScorePlayback.CommandLine.Request
import ScorePlayback.Conversion
import ScorePlayback.Document.Score
import ScorePlayback.Midi.File
import ScorePlayback.Text.ControlSequence

/-! What the commands print and write. A command runs up to the opening of its output file, and goes
on with what came of that. -/

namespace ScorePlayback.CommandLine

def programName : String := "scoremidi"

def version : String := "0.1.0"

/-- The levels of nesting that a command has room for. -/
def nestingRoom : Nat := 980

/-- A fault that no command answers for. -/
inductive Failure
  | load (error : LoadError)
  | lookup (fault : LookupFault)
  | conversion (error : ConversionError)
  | file (fault : FileFault)
  | path (fault : PathFault)
  | output (run : Text.UnencodableRun)
  | limit (limit : Limit)
deriving Repr

def Failure.message : Failure → LooseText
  | load error => error.message
  | lookup fault => fault.message
  | conversion error => error.message
  | file fault => fault.message
  | path fault => fault.message
  | output run => Text.Utf8.unencodableMessage run
  | limit exceeded => exceeded.message

structure Outcome where
  exit : Nat := 0
  stdout : String := ""
  stderr : String := ""
  failure : Option Failure := none
  log : List Log.Record := []

namespace Outcome

def fail (outcome : Outcome) (failure : Failure) : Outcome :=
  { outcome with exit := 1, failure := some failure }

/-- Prints a line as a plain stream shows it. The line has to be whole. -/
def printLine (outcome : Outcome) (line : LooseText) : Except Outcome Outcome :=
  let shown := Text.withoutControlSequences line
  match Text.Utf8.unencodable? shown with
  | some run => .error (outcome.fail (.output run))
  | none => .ok { outcome with stdout := outcome.stdout ++ shown.mended ++ "\n" }

def print (outcome : Outcome) (lines : List LooseText) : Except Outcome Outcome :=
  lines.foldlM printLine outcome

def logged (outcome : Outcome) (records : List Log.Record) : Outcome :=
  { outcome with log := outcome.log ++ records }

/-- Ends with a complaint. What is broken in it is shown by its number. -/
def complain (outcome : Outcome) (text : LooseText) : Outcome :=
  let shown := Text.withEscapedHalves (Text.withoutControlSequences ("  ERROR: " ++ text))
  { outcome with exit := 1, stderr := outcome.stderr ++ shown ++ "\n" }

/-- The outcome of a run, whether it went to its end or not. -/
def ofRun : Except Outcome Outcome → Outcome
  | .ok outcome => outcome
  | .error outcome => outcome

end Outcome

/-- A command has ended, or waits to hear whether its file could be opened. -/
inductive Progress
  | ended (outcome : Outcome)
  | writing (path : LooseText) (bytes : List UInt8) (resume : Except WriteFault Unit → Outcome)

def load (outcome : Outcome) (request : Request) (bytes : List UInt8) : Except Outcome Score :=
  match Document.ofBytes nestingRoom request.score bytes with
  | .ok score => .ok score
  | .error (.malformed error) => .error (outcome.complain ("Invalid score — " ++ error.message))
  | .error error => .error (outcome.fail (.load error))

def refuse (outcome : Outcome) (message : String) : Outcome :=
  outcome.complain s!"Could not convert score — {message}"

/-- The instrument asked for, the first one of the bank if none is. -/
def chosenInstrument (outcome : Outcome) (request : Request) : Except Outcome (Option Instrument) :=
  match request.instrument with
  | none => .ok none
  | some name =>
    match Bank.generalMidi.find (.text name) with
    | .ok instrument => .ok (some instrument)
    | .error (.unavailable fault) => .error (refuse outcome fault.message)
    | .error fault => .error (outcome.fail (.lookup fault))

/-- The least severity that is logged. -/
def severityOf (verbosity : Nat) : Log.Severity :=
  if verbosity = 0 then .warning else if verbosity = 1 then .info else .debug

def converted (outcome : Outcome) (request : Request) (score : Score) :
    Except Outcome (Track × Outcome) := do
  let instrument ← chosenInstrument outcome request
  let converter : Converter := {
    instrument
    encoding := { kind := request.encoding, velocity := some (request.velocity : Int) } }
  let conversion := converter.convert score
  let outcome := outcome.logged (conversion.log (severityOf request.verbosity))
  match conversion.result with
  | .ok track => return (track, outcome)
  | .error (.instrumentUnavailable fault) => throw (refuse outcome fault.message)
  | .error (.invalidEvent fault) =>
    throw (refuse outcome (ConversionError.invalidEvent fault).message)
  | .error error => throw (outcome.fail (.conversion error))

def padLeft (width : Nat) (text : String) : String :=
  .ofList (List.replicate (width - text.length) ' ') ++ text

def padRight (width : Nat) (text : String) : String :=
  text ++ .ofList (List.replicate (width - text.length) ' ')

/-- A whole number for a line of output. -/
def written (outcome : Outcome) (number : Int) : Except Outcome String :=
  (writeWhole number).mapError fun limit => outcome.fail (.limit limit)

def eventLine (event : Event) (tick : String) : LooseText :=
  s!"{padLeft 8 tick}  {padRight 14 event.kind.name}  {event.text}"

def printEvent (outcome : Outcome) (event : Event) : Except Outcome Outcome := do
  outcome.printLine (eventLine event (← written outcome event.tick))

def runEvents (request : Request) (bytes : List UInt8) : Except Outcome Outcome := do
  let score ← load {} request bytes
  let (track, outcome) ← converted {} request score
  track.sorted.foldlM printEvent outcome

def outputPath (request : Request) (output : Option LooseText) : LooseText :=
  output.getD (withSuffix request.score ".mid")

def afterOpening (outcome : Outcome) (track : Track) (path : LooseText) :
    Except WriteFault Unit → Outcome
  | .ok _ => .ofRun <| (outcome.logged [MidiFile.writtenRecord track path]).print
      ["", "Done!  Open '" ++ path ++ "' in any MIDI player."]
  | .error fault => outcome.complain s!"Could not write MIDI file — {fault.message path}"

def runConvert (request : Request) (output : Option LooseText) (bytes : List UInt8) :
    Except Outcome Progress := do
  let path := outputPath request output
  let outcome ← ({} : Outcome).print [
    s!"{programName} v{version}",
    "  Score    : " ++ request.score,
    s!"  Encoding : {request.encoding.name}",
    "  Output   : " ++ path,
    "",
    "[1/3] Loading score..."]
  let score ← load outcome request bytes
  let outcome ← outcome.print [
    s!"      {score.items.length} item(s)",
    "[2/3] Converting to MIDI events..."]
  let (track, outcome) ← converted outcome request score
  let ticks ← written outcome track.ticks
  let outcome ← outcome.print [
    s!"      {track.events.length} event(s), {ticks} tick(s)",
    "[3/3] Writing MIDI file → '" ++ path ++ "'..."]
  let rendered := MidiFile.ofTrack (stem request.score) track
  let outcome := outcome.logged rendered.log
  match rendered.result, pathFault? path with
  | .error fault, _ => throw (outcome.fail (.file fault))
  | .ok _, some fault => throw (outcome.fail (.path fault))
  | .ok file, none => return .writing path file (afterOpening outcome track path)

/-- Runs a request on the bytes of its score file. -/
def run (request : Request) (bytes : List UInt8) : Progress :=
  match request.action with
  | .events => .ended (.ofRun (runEvents request bytes))
  | .convert output =>
    match runConvert request output bytes with
    | .ok progress => progress
    | .error outcome => .ended outcome

/-- What a whole command line comes to: what is printed, and the file that is written. -/
structure Completion where
  outcome : Outcome
  written : Option (Place × List UInt8) := none

def versionLine : String := s!"{programName}, version {version}\n"

def usageLine : String := s!"Usage: {programName} [OPTIONS] COMMAND [ARGS]...\n"

/-- Executes a command line on a disk. The score file has to be there. -/
def execute (disk : Disk) (arguments : List LooseText) : Completion :=
  match readInvocation arguments with
  | .version => { outcome := { stdout := versionLine } }
  | .help => { outcome := { stdout := usageLine } }
  | .usageError => { outcome := { exit := 2 } }
  | .unusablePath fault => { outcome := ({} : Outcome).fail (.path fault) }
  | .request request =>
    match disk.read? request.score with
    | none => { outcome := { exit := 2 } }
    | some bytes =>
      let visible (outcome : Outcome) : Outcome :=
        { outcome with log := Log.atLeast (severityOf request.verbosity) outcome.log }
      match run request bytes with
      | .ended outcome => { outcome := visible outcome }
      | .writing path file resume =>
        match disk.openForWriting path with
        | .error fault => { outcome := visible (resume (.error fault)) }
        | .ok place => { outcome := visible (resume (.ok ())), written := some (place, file) }

end ScorePlayback.CommandLine
