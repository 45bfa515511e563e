import ScorePlayback.Document.Error

/-! Durations of a document: whole units, or a fraction of a whole note that is a whole number of
units. -/

namespace ScorePlayback.Document

/-- The units that a duration stands for. -/
def units (value : Value) : Except FormatError Nat :=
  match value with
  | .int count => if count < 0 then .error (.durationNegative value) else .ok count.toNat
  | .string text =>
    match Fraction.ofText text with
    | .error fault => .error (.duration value (some fault))
    | .ok fraction =>
      let count := fraction * (wholeUnits : Rat)
      if count.den ≠ 1 then .error (.durationGrid value)
      else if count.num < 0 then .error (.durationNegative value)
      else .ok count.num.toNat
  | value => .error (.duration value none)

end ScorePlayback.Document
