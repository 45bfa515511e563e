import ScorePlayback.Text.Loose

/-! Log records: what a part of the program has to say about its work, and how urgently. -/

namespace ScorePlayback.Log

inductive Severity
  | debug
  | info
  | warning
  | error
deriving DecidableEq, Repr

namespace Severity

def rank : Severity → Nat
  | debug => 0
  | info => 1
  | warning => 2
  | error => 3

def name : Severity → String
  | debug => "DEBUG"
  | info => "INFO"
  | warning => "WARNING"
  | error => "ERROR"

end Severity

/-- The part of the program that a record comes from. -/
inductive Source
  | playback
  | bank
  | file
deriving DecidableEq, Repr

structure Record where
  severity : Severity
  source : Source
  text : LooseText
deriving DecidableEq, Repr

/-- The records at least as urgent as asked for. -/
def atLeast (severity : Severity) (records : List Record) : List Record :=
  records.filter fun record => severity.rank ≤ record.severity.rank

end ScorePlayback.Log
