import ScorePlayback.CommandLine.Run

/-! The command line program: it reads the score file, runs the command on its bytes, and writes
what the command asks for. -/

namespace ScorePlayback.CommandLine

/-- What the system says about a file that cannot be opened. -/
def WriteFault.ofSystem : IO.Error → WriteFault
  | .noFileOrDirectory .. => .noSuchFile
  | .inappropriateType _ number reason => ⟨number.toNat, reason⟩
  | .permissionDenied _ number reason => ⟨number.toNat, reason⟩
  | .resourceExhausted _ number reason => ⟨number.toNat, reason⟩
  | .invalidArgument _ number reason => ⟨number.toNat, reason⟩
  | fault => ⟨5, toString fault⟩

def writeFile (path : String) (bytes : List UInt8) : IO (Except WriteFault Unit) := do
  try
    IO.FS.writeBinFile path ⟨bytes.toArray⟩
    return .ok ()
  catch fault => return .error (.ofSystem fault)

def readFile? (path : String) : IO (Option (List UInt8)) := do
  try return some (← IO.FS.readBinFile path).toList
  catch _ => return none

def finish (severity : Log.Severity) (outcome : Outcome) : IO UInt32 := do
  for entry in Log.atLeast severity outcome.log do
    IO.eprintln s!"{entry.severity.name} - {entry.text.mended}"
  IO.print outcome.stdout
  IO.eprint outcome.stderr
  if let some failure := outcome.failure then IO.eprintln failure.message.mended
  return outcome.exit.toUInt32

def usageError (reason : String) : IO UInt32 := do
  IO.eprint usageLine
  IO.eprintln s!"Error: {reason}"
  return 2

def unusable (fault : PathFault) : IO UInt32 := do
  IO.eprintln fault.message
  return 1

def perform (request : Request) : IO UInt32 := do
  let severity := severityOf request.verbosity
  match ← readFile? request.score.mended with
  | none => usageError s!"File {Text.quote request.score} cannot be read."
  | some bytes =>
    match run request bytes with
    | .ended outcome => finish severity outcome
    | .writing path file resume => finish severity (resume (← writeFile path.mended file))

end ScorePlayback.CommandLine

open ScorePlayback.CommandLine in
def main (arguments : List String) : IO UInt32 :=
  match readInvocation (arguments.map .ofString) with
  | .version => do IO.print versionLine; return 0
  | .help => do IO.print usageLine; return 0
  | .usageError => usageError "The arguments do not form a command."
  | .unusablePath fault => unusable fault
  | .request request => perform request
