import ScorePlayback.CommandLine.Path
import ScorePlayback.Midi.Encoding

/-! Arguments read into requests. Options of the program stand before the command, options of the
command anywhere after it, and two dashes end them. -/

namespace ScorePlayback.CommandLine
open Text

/-- Options by their names; `valued` ones take a value. -/
inductive Switch
  | verbose
  | version
  | help
  | output
  | encoding
  | instrument
  | velocity
deriving DecidableEq, Repr

def Switch.valued : Switch → Bool
  | verbose => false
  | version => false
  | help => false
  | output => true
  | encoding => true
  | instrument => true
  | velocity => true

/-- The names of options, with their dashes. -/
abbrev Names := List (String × Switch)

def programNames : Names := [
  ("--verbose", .verbose), ("-v", .verbose), ("--version", .version), ("--help", .help),
  ("-h", .help)]

def eventsNames : Names := [
  ("--encoding", .encoding), ("--instrument", .instrument), ("-i", .instrument),
  ("--velocity", .velocity), ("--help", .help), ("-h", .help)]

def convertNames : Names := ("--output", .output) :: ("-o", .output) :: eventsNames

/-- A switch with its value, empty where it takes none. -/
abbrev Setting := Switch × LooseText

/-- The settings of one argument, and whether the next argument is the value of the last one. -/
structure Argument where
  settings : List Setting
  usesNext : Bool

def switchNamed? (names : Names) (name : List TextUnit) : Option Switch :=
  (LooseText.string? ⟨name⟩).bind fun name => names.lookup name

/-- A name with two dashes; a value may be attached by an equals sign. -/
def longOption? (names : Names) (argument : List TextUnit) (next : Option LooseText) :
    Option Argument :=
  let attached : Option LooseText :=
    match argument.dropWhile (· ≠ .char '=') with
    | [] => none
    | _ :: value => some ⟨value⟩
  match switchNamed? names (argument.takeWhile (· ≠ .char '=')), attached with
  | none, _ => none
  | some switch, some value => if switch.valued then some ⟨[(switch, value)], false⟩ else none
  | some switch, none =>
    if switch.valued then next.map fun value => ⟨[(switch, value)], true⟩
    else some ⟨[(switch, "")], false⟩

/-- Letters after one dash. The rest of the argument after a letter that takes a value is it. -/
def shortOptions? (names : Names) (next : Option LooseText) : List TextUnit → Option Argument
  | [] => some ⟨[], false⟩
  | letter :: rest =>
    match switchNamed? names [.char '-', letter] with
    | none => none
    | some switch =>
      if !switch.valued then
        (shortOptions? names next rest).map fun argument =>
          { argument with settings := (switch, "") :: argument.settings }
      else if rest.isEmpty then next.map fun value => ⟨[(switch, value)], true⟩
      else some ⟨[(switch, ⟨rest⟩)], false⟩

def option? (names : Names) (argument : LooseText) (next : Option LooseText) : Option Argument :=
  match argument.units with
  | .char '-' :: .char '-' :: _ => longOption? names argument.units next
  | letters => shortOptions? names next (letters.drop 1)

/-- A dash with more after it. -/
def isOption (argument : LooseText) : Bool :=
  match argument.units with
  | .char '-' :: _ :: _ => true
  | _ => false

structure Arguments where
  settings : List Setting := []
  rest : List LooseText := []

/-- Reads options. Unless they may be `mixed` with other arguments the first of those ends them. -/
def readArguments (names : Names) (mixed : Bool) (arguments : List LooseText) :
    Option Arguments :=
  match arguments with
  | [] => some {}
  | argument :: rest =>
    if argument = "--" then some { rest }
    else if isOption argument then
      match option? names argument rest.head? with
      | none => none
      | some option =>
        (readArguments names mixed (if option.usesNext then rest.tail else rest)).map fun read =>
          { read with settings := option.settings ++ read.settings }
    else if mixed then
      (readArguments names mixed rest).map fun read => { read with rest := argument :: read.rest }
    else some { rest := argument :: rest }
termination_by arguments.length
decreasing_by
  · split <;> simp only [List.length_cons, List.length_tail] <;> omega
  · simp

namespace Arguments

def has (arguments : Arguments) (switch : Switch) : Bool :=
  arguments.settings.any (·.1 = switch)

/-- The last value counts. -/
def value? (arguments : Arguments) (switch : Switch) : Option LooseText :=
  arguments.settings.reverse.lookup switch

end Arguments

inductive Action
  | convert (output : Option LooseText)
  | events
deriving DecidableEq, Repr

structure Request where
  verbosity : Nat
  action : Action
  score : LooseText
  encoding : EncodingKind := .standard
  instrument : Option LooseText := none
  velocity : Nat := 64
deriving DecidableEq, Repr

inductive Invocation
  | version
  | help
  | usageError
  | unusablePath (fault : PathFault)
  | request (request : Request)
deriving DecidableEq, Repr

/-- An encoding by its name, without regard to case. -/
def encodingNamed? (name : LooseText) : Option EncodingKind :=
  EncodingKind.all.find? fun kind => fold kind.name == fold name

/-- A velocity that a note may start with. -/
def velocity? (text : LooseText) : Option Nat :=
  match Numeral.ofText text with
  | .ok number => if 1 ≤ number ∧ number ≤ 127 then some number.toNat else none
  | .error _ => none

/-- The value of an option, which may be absent but not wrong. -/
def optionalValue (arguments : Arguments) (switch : Switch) (absent : α)
    (read : LooseText → Option α) : Option α :=
  match arguments.value? switch with
  | none => some absent
  | some text => read text

/-- The path of the score is looked at after the options, and before arguments that are too many. -/
def readRequest (verbosity : Nat) (isConvert : Bool) (arguments : List LooseText) : Invocation :=
  match readArguments (if isConvert then convertNames else eventsNames) true arguments with
  | none => .usageError
  | some arguments =>
    if arguments.has .help then .help
    else
      match arguments.rest, optionalValue arguments .encoding .standard encodingNamed?,
          optionalValue arguments .velocity 64 velocity? with
      | score :: more, some encoding, some velocity =>
        match pathFault? score with
        | some fault => .unusablePath fault
        | none =>
          if more.isEmpty then
            .request {
              verbosity, score, encoding, velocity
              action := if isConvert then .convert (arguments.value? .output) else .events
              instrument := arguments.value? .instrument }
          else .usageError
      | _, _, _ => .usageError

/-- What the program's own options ask for, if they ask for more than a command. -/
def programAnswer? (program : Arguments) : Option Invocation :=
  (program.settings.map Prod.fst).findSome? fun
    | .version => some .version
    | .help => some .help
    | _ => none

/-- What is no command's name is read as options of the program once more. -/
def readUnknown (arguments : List LooseText) : Invocation :=
  ((readArguments programNames false arguments).bind programAnswer?).getD .usageError

def readInvocation (arguments : List LooseText) : Invocation :=
  match readArguments programNames false arguments with
  | none => .usageError
  | some program =>
    match programAnswer? program with
    | some answer => answer
    | none =>
      let verbosity := (program.settings.filter (·.1 = .verbose)).length
      match program.rest with
      | [] => .usageError
      | command :: rest =>
        if command = "convert" then readRequest verbosity true rest
        else if command = "events" then readRequest verbosity false rest
        else readUnknown (command :: rest)

end ScorePlayback.CommandLine
