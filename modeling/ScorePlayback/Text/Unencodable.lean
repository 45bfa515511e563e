import ScorePlayback.Text.Quoted

/-! What an encoding has no bytes for. The first run of such units in a text is reported, a single
one by its number and a longer run by its place. -/

namespace ScorePlayback.Text

/-- Where a run starts, its first unit, and the number of its units. -/
structure UnencodableRun where
  start : Nat
  first : TextUnit
  count : Nat
deriving DecidableEq, Repr

namespace UnencodableRun

/-- The first unit that does not fit, and those after it that `continues` holds of. -/
def find? (fits continues : TextUnit → Bool) (text : LooseText) : Option UnencodableRun :=
  match text.units.dropWhile fits with
  | [] => none
  | first :: rest => some {
      start := (text.units.takeWhile fits).length, first,
      count := 1 + (rest.takeWhile continues).length }

/-- The characters of a run and their place, in words. -/
def text (run : UnencodableRun) : String :=
  if run.count = 1 then
    let shown := String.ofList (escapePoint run.first.point)
    s!"character '{shown}' in position {run.start}"
  else s!"characters in position {run.start}-{run.start + run.count - 1}"

end UnencodableRun

end ScorePlayback.Text
