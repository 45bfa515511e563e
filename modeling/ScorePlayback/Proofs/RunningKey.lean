import ScorePlayback.Proofs.Heard

/-! The running key, told from what has been performed: the key that was declared last, as the
written accidentals since the last bar line or key have changed it. -/

namespace ScorePlayback

/-- What bears on accidentals, in the order in which it is performed. A `single` note may be a grace
note or a rest. -/
inductive Moment
  | bar
  | key (key : KeySignature)
  | single (note : Note)
  | chord (notes : List Note)

def Item.moments : Item → List Moment
  | .bar _ => [.bar]
  | .key declared => [.key declared]
  | .note single => if single.endsTie then [] else (single.grace ++ [single]).map .single
  | .chord together => [.chord together.notes]
  | .tempo _ => []
  | .absent => []

namespace Moment

def key? : Moment → Option KeySignature
  | key declared => some declared
  | _ => none

/-- Whether accidentals written before are forgotten. -/
def resets : Moment → Bool
  | bar => true
  | key _ => true
  | _ => false

/-- The notes whose written accidentals stay: a single note if it sounds, and all notes of a
chord. -/
def carries : Moment → List Note
  | single note => if note.sounds then [note] else []
  | chord notes => notes
  | _ => []

def sounding : Moment → List Note
  | single note => if note.sounds then [note] else []
  | chord notes => notes.filter Note.sounds
  | _ => []

end Moment

def declaredKey (past : List Moment) : Option KeySignature := (past.filterMap Moment.key?).getLast?

/-- The notes whose accidentals stay since the last bar line or key, the earliest first. -/
def carriedNotes (past : List Moment) : List Note :=
  (past.reverse.takeWhile (!·.resets)).reverse.flatMap Moment.carries

def Note.writtenOn (letter : Letter) (note : Note) : Option Accidental :=
  if note.letter = letter then note.accidental else none

/-- The latest accidental on a letter that stays. -/
def carriedAccidental (past : List Moment) (letter : Letter) : Option Accidental :=
  ((carriedNotes past).filterMap (Note.writtenOn letter)).getLast?

def Letter.position (letter : Letter) : PitchPosition := .ofHeight letter.naturalHeight

/-- By how many semitones a note is altered after what has been performed. -/
def Note.alterationAfter (past : List Moment) (note : Note) : Int :=
  match note.accidental, declaredKey past, carriedAccidental past note.letter with
  | some written, _, _ => written.semitones
  | none, none, _ => 0
  | none, some _, some carried => carried.semitones
  | none, some key, none => Accidental.semitonesOf (key.accidentalAt note.letter.position)

def Note.numberAfter (past : List Moment) (note : Note) : Int :=
  60 + note.letter.naturalHeight + 12 * (note.octave + note.transposition) +
    note.alterationAfter past

theorem declaredKey_append (past : List Moment) (moment : Moment) :
    declaredKey (past ++ [moment]) = moment.key?.or (declaredKey past) := by
  rw [declaredKey, List.filterMap_append, List.getLast?_append]
  cases moment <;> rfl

theorem carriedNotes_append (past : List Moment) (moment : Moment) :
    carriedNotes (past ++ [moment]) =
      if moment.resets then [] else carriedNotes past ++ moment.carries := by
  rw [carriedNotes, List.reverse_append, List.reverse_singleton, List.singleton_append,
    List.takeWhile_cons]
  cases moment.resets with
  | true => rfl
  | false =>
    simp only [Bool.not_false, if_true, Bool.false_eq_true, if_false, List.reverse_cons,
      List.flatMap_append, List.flatMap_singleton]
    rfl

theorem Note.position_eq (note : Note) : note.position = note.letter.position := by
  rw [position, note.rootHeight_eq, Letter.position]

private theorem Letter.position_inj {first second : Letter} :
    first.position = second.position ↔ first = second := by
  refine ⟨?_, congrArg _⟩
  cases first <;> cases second <;> decide

namespace KeySignature

private theorem accidentalAt_carry (key : KeySignature) (note : Note) (letter : Letter) :
    (key.carry note).accidentalAt letter.position =
      (note.writtenOn letter).or (key.accidentalAt letter.position) := by
  unfold carry Note.writtenOn
  cases note.accidental with
  | none => simp
  | some written =>
    simp only [accidentalAt_setAccidental, Note.position_eq, Letter.position_inj]
    split <;> rfl

private theorem accidentalAt_foldl_carry (key : KeySignature) (notes : List Note)
    (letter : Letter) :
    (notes.foldl carry key).accidentalAt letter.position =
      (notes.filterMap (Note.writtenOn letter)).getLast?.or (key.accidentalAt letter.position) := by
  induction notes generalizing key with
  | nil => rfl
  | cons note rest ih =>
    rw [List.foldl_cons, ih, accidentalAt_carry]
    cases written : note.writtenOn letter with
    | none => rw [List.filterMap_cons_none written, Option.none_or]
    | some accidental =>
      rw [List.filterMap_cons_some written, List.getLast?_cons]
      cases (rest.filterMap (Note.writtenOn letter)).getLast? <;> rfl

end KeySignature

private theorem carry_foldl (key : Option KeySignature) (notes : List Note) :
    notes.foldl carry key = key.map fun key => notes.foldl KeySignature.carry key := by
  induction notes generalizing key with
  | nil => cases key <;> rfl
  | cons note rest ih =>
    rw [List.foldl_cons, ih]
    cases key <;> rfl

/-- The declared key with the accidentals that stay. -/
def runningKey (past : List Moment) : Option KeySignature :=
  (declaredKey past).map fun key => (carriedNotes past).foldl KeySignature.carry key

private theorem runningKey_of_carries {past : List Moment} {moment : Moment}
    (stays : moment.resets = false) (same : moment.key? = none) :
    runningKey (past ++ [moment]) = moment.carries.foldl carry (runningKey past) := by
  rw [runningKey, declaredKey_append, carriedNotes_append, stays, same, carry_foldl, runningKey]
  cases declaredKey past with
  | none => rfl
  | some key => simp [List.foldl_append]

/-- A note is altered by what the running key says at its place. -/
theorem Note.number_runningKey (past : List Moment) (note : Note) :
    note.number (runningKey past) = note.numberAfter past := by
  have alteration : note.alteration (runningKey past) = note.alterationAfter past := by
    unfold alteration alterationAfter runningKey
    cases note.accidental with
    | some written => rfl
    | none =>
      cases declaredKey past with
      | none => rfl
      | some key =>
        simp only [Option.map_some, position_eq, KeySignature.accidentalAt_foldl_carry]
        rw [← carriedAccidental]
        cases carriedAccidental past note.letter <;> rfl
  rw [number, numberAfter, alteration, middleC, strictHeight]
  omega

namespace Playhead

/-- The keys of the playhead are those of what has been performed. -/
structure Follows (head : Playhead) (past : List Moment) : Prop where
  declared : head.declared = declaredKey past
  running : head.running = runningKey past

variable {head : Playhead} {past : List Moment} (score : Score) (resolution : Int)

theorem Follows.start : ({} : Playhead).Follows [] := ⟨rfl, rfl⟩

/-- A moment at which the declared key stays carries its notes over. -/
theorem Follows.carries (follows : head.Follows past) {moment : Moment}
    (stays : moment.resets = false) (same : moment.key? = none) {after : Playhead}
    (declared : after.declared = head.declared)
    (running : after.running = moment.carries.foldl carry head.running) :
    after.Follows (past ++ [moment]) := by
  constructor
  · rw [declared, follows.declared, declaredKey_append, same, Option.none_or]
  · rw [running, follows.running, runningKey_of_carries stays same]

theorem Follows.resets (follows : head.Follows past) {moment : Moment}
    (forgets : moment.resets = true) {after : Playhead}
    (declared : after.declared = moment.key?.or head.declared)
    (running : after.running = after.declared) : after.Follows (past ++ [moment]) := by
  have key : after.declared = declaredKey (past ++ [moment]) := by
    rw [declared, follows.declared, declaredKey_append]
  refine ⟨key, ?_⟩
  rw [running, key, runningKey, carriedNotes_append, forgets]
  exact Option.map_id'.symm

theorem Follows.playSingle (follows : head.Follows past) (note : Note) :
    (head.playSingle score resolution note).1.Follows (past ++ [.single note]) := by
  refine follows.carries rfl rfl ?_ ?_
  · unfold Playhead.playSingle
    split <;> rfl
  · simp only [Playhead.playSingle, Moment.carries]
    split <;> rfl

theorem Follows.playEach (follows : head.Follows past) (notes : List Note) :
    (head.playEach score resolution notes).1.Follows (past ++ notes.map .single) := by
  induction notes generalizing head past with
  | nil =>
    rw [List.map_nil, List.append_nil]
    exact follows
  | cons note rest ih =>
    have after := ih (follows.playSingle score resolution note)
    rw [List.append_assoc] at after
    exact after

theorem Follows.performItem (follows : head.Follows past) (item : Item) :
    (head.performItem score resolution item).1.Follows (past ++ item.moments) := by
  cases item with
  | bar => exact follows.resets rfl rfl rfl
  | key => exact follows.resets rfl rfl rfl
  | note single =>
    simp only [Playhead.performItem, playItem, playNote, Item.moments]
    split
    next =>
      rw [List.append_nil]
      exact follows
    next => exact follows.playEach ..
  | chord together => exact follows.carries rfl rfl rfl rfl
  | tempo | absent =>
    rw [Item.moments, List.append_nil]
    exact follows

end Playhead

end ScorePlayback
