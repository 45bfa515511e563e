import ScorePlayback.Notation.Accidental
import ScorePlayback.Notation.Letter
import ScorePlayback.Notation.Error

/-! Notes and rests. A note is told from an equal one by its identity, and a tie names the note it
leads to by that note's identity. -/

namespace ScorePlayback

/-- Units of notated length in a quarter note. -/
def quarterUnits : Nat := 96

/-- Units of notated length in a whole note. -/
def wholeUnits : Nat := 384

structure Note where
  id : Nat
  letter : Letter := .c
  octave : Int := 0
  accidental : Option Accidental := none
  duration : Nat := quarterUnits
  isRest : Bool := false
  transposition : Int := 0
  beginsTie : Bool := false
  endsTie : Bool := false
  tiedTo : Option Nat := none
  grace : List Note := []
deriving Repr, BEq, Inhabited

namespace Note

def rest (id duration : Nat) : Note := { id, duration, isRest := true }

/-- Semitones above middle C without any accidental. -/
def strictHeight (note : Note) : Int := note.letter.naturalHeight + note.octave * 12

/-- The note's height in the octave of middle C. -/
def rootHeight (note : Note) : Int := note.strictHeight % 12

/-- An octave has twelve semitones, so the height within it is the letter's own. -/
theorem rootHeight_eq (note : Note) : note.rootHeight = note.letter.naturalHeight := by
  unfold rootHeight strictHeight
  cases note.letter <;> simp only [Letter.naturalHeight] <;> omega

def position (note : Note) : PitchPosition := .ofHeight note.rootHeight

/-- Whether the note is heard when its turn comes: a tie ending is part of an earlier note. -/
def sounds (note : Note) : Bool := !note.isRest && !note.endsTie

/-- A note as messages show it, if the numbers in it can be written. -/
def text (note : Note) : Except Limit String :=
  if note.isRest then do return s!"Note(rest, duration={← writeWhole note.duration})"
  else do
    let octave ← writeWhole note.octave
    let duration ← writeWhole note.duration
    let accidental := Accidental.nameOf note.accidental
    return s!"Note({note.letter.name}, octave={octave}, accidental={accidental}, " ++
      s!"duration={duration})"

/-- Joins two notes into one sounding length. -/
def tie (first second : Note) : Note × Note :=
  ({ first with beginsTie := true, tiedTo := some second.id }, { second with endsTie := true })

end Note

/-- The letter and length of a note as they are given, checked. -/
def Note.check (letter : LooseText) (units : Int) : Except NotationError (Letter × Nat) :=
  match Letter.ofText? letter with
  | none => .error (.letter (Text.upper letter))
  | some letter => if units < 0 then .error (.duration units) else .ok (letter, units.toNat)

/-- Notes that sound together. -/
structure Chord where
  notes : List Note
deriving Repr, BEq, Inhabited

namespace Chord

/-- The first of the shortest notes. -/
def shortest? : List Note → Option Note
  | [] => none
  | note :: rest =>
    match shortest? rest with
    | none => some note
    | some other => if note.duration ≤ other.duration then some note else some other

theorem shortest?_eq_none_iff {notes : List Note} : shortest? notes = none ↔ notes = [] := by
  cases notes with
  | nil => exact ⟨fun _ => rfl, fun _ => rfl⟩
  | cons note rest =>
    refine ⟨fun missing => ?_, nofun⟩
    unfold shortest? at missing
    split at missing
    next => cases missing
    next => split at missing <;> cases missing

/-- What is found is one of the notes, and none of them is shorter. -/
theorem shortest?_spec {notes : List Note} {note : Note} (shortest : shortest? notes = some note) :
    note ∈ notes ∧ ∀ other ∈ notes, note.duration ≤ other.duration := by
  induction notes generalizing note with
  | nil => cases shortest
  | cons first rest ih =>
    unfold shortest? at shortest
    split at shortest
    next missing =>
      cases shortest
      rw [shortest?_eq_none_iff.mp missing]
      exact ⟨List.mem_cons_self, by simp⟩
    next found later =>
      obtain ⟨member, least⟩ := ih later
      split at shortest
      next sooner =>
        cases shortest
        refine ⟨List.mem_cons_self, fun other inside => ?_⟩
        rcases List.mem_cons.mp inside with rfl | inside
        · exact Nat.le_refl _
        · exact Nat.le_trans sooner (least other inside)
      next longer =>
        cases shortest
        refine ⟨List.mem_cons_of_mem _ member, fun other inside => ?_⟩
        rcases List.mem_cons.mp inside with rfl | inside
        · omega
        · exact least other inside

/-- A first note that is not longer than any other one is found. -/
theorem shortest?_cons {note : Note} {rest : List Note}
    (least : ∀ other ∈ rest, note.duration ≤ other.duration) :
    shortest? (note :: rest) = some note := by
  unfold shortest?
  split
  next => rfl
  next other found => exact if_pos (least other (shortest?_spec found).1)

def withoutTieEndings (chord : Chord) : List Note := chord.notes.filter (!·.endsTie)

end Chord

end ScorePlayback
