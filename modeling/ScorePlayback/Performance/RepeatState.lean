import ScorePlayback.Notation.Bar

/-! What a bar line does to the repeat that is being played. -/

namespace ScorePlayback

/-- The passes that a bar line asks for: below that number it sends playback back. -/
def Bar.passes : Bar → Int
  | .ending numbered => numbered.target
  | .line .repeatClose => 2
  | .line .repeatCloseOpen => 2
  | .line .simple => 0
  | .line .repeatOpen => 0

/-- `opening` is the place of the mark that the active repeat goes back to, `pass` numbers the
passes through it, and `skipping` holds inside an ending for another pass. -/
structure RepeatState where
  opening : Option Nat := none
  pass : Nat := 1
  skipping : Bool := false
deriving DecidableEq, Repr, Inhabited

namespace RepeatState

/-- Where a bar line sends playback back to, if it does. -/
def back? (state : RepeatState) (bar : Bar) : Option Nat :=
  if state.pass < bar.passes then state.opening else none

theorem back?_eq_some_iff {state : RepeatState} {bar : Bar} {target : Nat} :
    state.back? bar = some target ↔ state.pass < bar.passes ∧ state.opening = some target := by
  unfold back?
  split
  next more => simp [more]
  next last => simp [last]

def rewind (state : RepeatState) : RepeatState := { state with pass := state.pass + 1 }

/-- The state after a bar line that is passed. Only numbered endings switch skipping on or off, and
a mark without a place cannot be gone back to. -/
def onward (state : RepeatState) (place : Option Nat) : Bar → RepeatState
  | .ending numbered => { state with skipping := decide (numbered.target < state.pass) }
  | .line .simple => state
  | .line .repeatClose => { state with opening := none, pass := 1 }
  | .line .repeatOpen => { state with opening := place, pass := 1 }
  | .line .repeatCloseOpen => { state with opening := place, pass := 1 }

def visit (state : RepeatState) (bar : Bar) (place : Option Nat) : RepeatState :=
  if (state.back? bar).isSome then state.rewind else state.onward place bar

end RepeatState

end ScorePlayback
