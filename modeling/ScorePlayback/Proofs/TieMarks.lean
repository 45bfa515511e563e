import Mathlib.Data.List.Nodup
import ScorePlayback.Document.Score
import ScorePlayback.Proofs.Rendered

/-! Ties as they are marked note by note. What awaits the end of a tie at a letter and octave is the
latest marked note there, if it begins a tie. A note that ends one is linked to it, and is refused
where nothing awaits an end. -/

namespace ScorePlayback

section Lookup
variable [BEq α] [LawfulBEq α] [DecidableEq α]

theorem lookup_cons_ite (key other : α) (value : β) (rest : List (α × β)) :
    ((key, value) :: rest).lookup other =
      if other = key then some value else rest.lookup other := by
  rw [List.lookup_cons]
  split
  next same => rw [if_pos (beq_iff_eq.mp same)]
  next elsewhere => rw [if_neg (beq_eq_false_iff_ne.mp elsewhere)]

theorem lookup_filter_ne (entries : List (α × β)) (key other : α) :
    (entries.filter (·.1 != key)).lookup other =
      if other = key then none else entries.lookup other := by
  induction entries with
  | nil => rw [List.filter_nil, List.lookup_nil, ite_self]
  | cons entry rest ih =>
    obtain ⟨here, value⟩ := entry
    rw [lookup_cons_ite]
    by_cases same : here = key
    · rw [List.filter_cons_of_neg (by simpa using same), ih, same]
      split <;> rfl
    · rw [List.filter_cons_of_pos (by simpa using same), lookup_cons_ite, ih]
      split
      next found => rw [if_neg (found ▸ same)]
      next => rfl

end Lookup

/-- What is said of the tie at a note: where the note stands, and how it is marked. -/
structure Marking where
  place : Letter × Int
  mark : Document.TieMark
deriving DecidableEq

def MarkedAt (markings : List Marking) (place : Letter × Int) (index : Nat) : Prop :=
  ∃ marking, markings[index]? = some marking ∧ marking.mark ≠ .absent ∧ marking.place = place

/-- `start` is the nearest marked note at a place before `stop`. -/
structure Nearest (markings : List Marking) (place : Letter × Int) (start stop : Nat) : Prop where
  earlier : start < stop
  marked : MarkedAt markings place start
  between : ∀ index, start < index → index < stop → ¬ MarkedAt markings place index

theorem nearest_succ {markings : List Marking} {place : Letter × Int} {start stop : Nat} :
    Nearest markings place start (stop + 1) ↔
      ¬ MarkedAt markings place stop ∧ Nearest markings place start stop ∨
        MarkedAt markings place stop ∧ start = stop := by
  constructor
  · intro nearest
    rcases Nat.lt_succ_iff_lt_or_eq.mp nearest.earlier with inside | rfl
    · refine .inl ⟨nearest.between stop inside (Nat.lt_succ_self stop), inside, nearest.marked, ?_⟩
      intro index after before
      exact nearest.between index after (Nat.lt_succ_of_lt before)
    · exact .inr ⟨nearest.marked, rfl⟩
  · rintro (⟨plain, nearest⟩ | ⟨marked, rfl⟩)
    · refine ⟨Nat.lt_succ_of_lt nearest.earlier, nearest.marked, fun index after before => ?_⟩
      rcases Nat.lt_succ_iff_lt_or_eq.mp before with inside | rfl
      · exact nearest.between index after inside
      · exact plain
    · exact ⟨Nat.lt_succ_self start, marked, fun index after before => by omega⟩

theorem Nearest.unique {markings : List Marking} {place : Letter × Int} {first second stop : Nat}
    (one : Nearest markings place first stop) (other : Nearest markings place second stop) :
    first = second := by
  rcases Nat.lt_trichotomy first second with before | same | after
  · exact absurd other.marked (one.between second before other.earlier)
  · exact same
  · exact absurd one.marked (other.between first after one.earlier)

/-- The note at `stop` ends a tie, and `start` is the nearest marked note before it at its place. -/
def Leads (markings : List Marking) (start stop : Nat) : Prop :=
  ∃ marking, markings[stop]? = some marking ∧ marking.mark.ends = true ∧
    Nearest markings marking.place start stop

/-- Before every note that ends a tie, the nearest marked note at its place begins one. -/
def Matched (markings : List Marking) : Prop :=
  ∀ stop marking, markings[stop]? = some marking → marking.mark.ends = true →
    ∃ start first, Nearest markings marking.place start stop ∧ markings[start]? = some first ∧
      first.mark.begins = true

/-- The note at `stop` is the first that ends a tie which nothing awaits. -/
structure FirstUnmatched (markings : List Marking) (stop : Nat) : Prop where
  before : Matched (markings.take stop)
  here : ¬ Matched (markings.take (stop + 1))

private theorem ne_absent_of_ends {mark : Document.TieMark} (ends : mark.ends = true) :
    mark ≠ .absent := by
  rintro rfl
  cases ends

namespace Leads
variable {markings : List Marking} {start stop other : Nat}

theorem before (leads : Leads markings start stop) : start < stop := by
  obtain ⟨marking, -, -, nearest⟩ := leads
  exact nearest.earlier

theorem start_unique (one : Leads markings start stop) (two : Leads markings other stop) :
    start = other := by
  obtain ⟨marking, here, -, nearest⟩ := one
  obtain ⟨same, there, -, near⟩ := two
  cases here.symm.trans there
  exact nearest.unique near

/-- The end that is met first keeps any later one of the same place from the start. -/
theorem not_before (one : Leads markings start stop) (two : Leads markings start other) :
    ¬ stop < other := by
  intro before
  obtain ⟨first, here, ends, nearest⟩ := one
  obtain ⟨second, -, -, near⟩ := two
  obtain ⟨marking, found, -, place⟩ := nearest.marked
  obtain ⟨same, there, -, position⟩ := near.marked
  cases found.symm.trans there
  exact near.between stop nearest.earlier before
    ⟨first, here, ne_absent_of_ends ends, place.symm.trans position⟩

theorem stop_unique (one : Leads markings start stop) (two : Leads markings start other) :
    stop = other :=
  Nat.le_antisymm (Nat.not_lt.mp (two.not_before one)) (Nat.not_lt.mp (one.not_before two))

end Leads

namespace Note

def place (note : Note) : Letter × Int := (note.letter, note.octave)

/-- Whether a note is marked at a letter and octave. -/
def isMarkedAt (place : Letter × Int) (note : Note) : Bool :=
  (note.beginsTie || note.endsTie) && note.place = place

/-- The note with a tie mark. -/
def marked (note : Note) (mark : Document.TieMark) : Note :=
  { note with beginsTie := mark.begins, endsTie := mark.ends }

def tieMark (note : Note) : Document.TieMark :=
  match note.beginsTie, note.endsTie with
  | false, false => .absent
  | true, false => .start
  | false, true => .stop
  | true, true => .through

def marking (note : Note) : Marking := ⟨note.place, note.tieMark⟩

theorem begins_tieMark (note : Note) : note.tieMark.begins = note.beginsTie := by
  unfold tieMark
  cases note.beginsTie <;> cases note.endsTie <;> rfl

theorem ends_tieMark (note : Note) : note.tieMark.ends = note.endsTie := by
  unfold tieMark
  cases note.beginsTie <;> cases note.endsTie <;> rfl

theorem marking_marked (note : Note) (mark : Document.TieMark) :
    (note.marked mark).marking = ⟨note.place, mark⟩ := by
  cases mark <;> rfl

private theorem isMarkedAt_iff {note : Note} {place : Letter × Int} :
    note.isMarkedAt place = true ↔ note.marking.mark ≠ .absent ∧ note.marking.place = place := by
  unfold isMarkedAt marking tieMark
  cases note.beginsTie <;> cases note.endsTie <;> simp

end Note

def lastMarked? (past : List Note) (place : Letter × Int) : Option Note :=
  (past.filter (Note.isMarkedAt place)).getLast?

/-- The note that awaits the end of its tie at a letter and octave. -/
def awaiting? (past : List Note) (place : Letter × Int) : Option Note :=
  (lastMarked? past place).filter Note.beginsTie

theorem lastMarked?_append (past : List Note) (note : Note) (place : Letter × Int) :
    lastMarked? (past ++ [note]) place =
      if note.isMarkedAt place then some note else lastMarked? past place := by
  unfold lastMarked?
  rw [List.filter_append]
  split
  next marked => rw [List.filter_singleton, marked, cond_true, List.getLast?_concat]
  next plain =>
    rw [List.filter_singleton, Bool.eq_false_iff.mpr plain, cond_false, List.append_nil]

theorem awaiting?_append (past : List Note) (note : Note) (place : Letter × Int) :
    awaiting? (past ++ [note]) place =
      if note.isMarkedAt place then (if note.beginsTie then some note else none)
      else awaiting? past place := by
  rw [awaiting?, lastMarked?_append]
  split
  next => exact Option.filter_some
  next => rfl

private theorem lastMarked?_take {notes : List Note} {place : Letter × Int} {stop : Nat}
    {first : Note} :
    lastMarked? (notes.take stop) place = some first ↔
      ∃ start, notes[start]? = some first ∧ Nearest (notes.map Note.marking) place start stop := by
  -- The prefix grows by a note, which is the nearest if it is marked there and else is passed by.
  induction stop with
  | zero =>
    constructor
    · exact nofun
    · rintro ⟨start, -, nearest⟩
      exact absurd nearest.earlier (Nat.not_lt_zero start)
  | succ stop ih =>
    rw [List.take_add_one]
    cases here : notes[stop]? with
    | none =>
      have plain : ¬ MarkedAt (notes.map Note.marking) place stop := by
        rintro ⟨marking, found, -⟩
        rw [List.getElem?_map, here] at found
        cases found
      simp only [Option.toList_none, List.append_nil, ih, nearest_succ, plain, not_false_eq_true,
        true_and, false_and, or_false]
    | some note =>
      have marked : MarkedAt (notes.map Note.marking) place stop ↔
          note.isMarkedAt place = true := by
        simp [MarkedAt, List.getElem?_map, here, Note.isMarkedAt_iff]
      rw [Option.toList_some, lastMarked?_append]
      simp only [nearest_succ, marked]
      split
      next there =>
        simp only [there, not_true_eq_false, false_and, true_and, false_or]
        constructor
        · intro same
          exact ⟨stop, here.trans same, rfl⟩
        · rintro ⟨start, found, rfl⟩
          exact here.symm.trans found
      next plain =>
        simp only [plain, Bool.false_eq_true, not_false_eq_true, true_and, false_and, or_false, ih]

theorem awaiting?_take {notes : List Note} {place : Letter × Int} {stop : Nat} {first : Note} :
    awaiting? (notes.take stop) place = some first ↔
      ∃ start, notes[start]? = some first ∧ Nearest (notes.map Note.marking) place start stop ∧
        first.beginsTie = true := by
  rw [awaiting?, Option.filter_eq_some_iff, lastMarked?_take]
  constructor
  · rintro ⟨⟨start, here, nearest⟩, begins⟩
    exact ⟨start, here, nearest, begins⟩
  · rintro ⟨start, here, nearest, begins⟩
    exact ⟨⟨start, here, nearest⟩, begins⟩

/-- Every note that ends a tie has one that awaits it. -/
def Closes (past : List Note) : List Note → Prop
  | [] => True
  | note :: rest =>
    (note.endsTie = true → (awaiting? past note.place).isSome = true) ∧ Closes (past ++ [note]) rest

theorem closes_append (past first second : List Note) :
    Closes past (first ++ second) ↔ Closes past first ∧ Closes (past ++ first) second := by
  induction first generalizing past with
  | nil => simp [Closes]
  | cons note rest ih => simp [Closes, ih, and_assoc]

theorem closes_iff {past rest : List Note} :
    Closes past rest ↔ ∀ index note, rest[index]? = some note → note.endsTie = true →
      (awaiting? (past ++ rest.take index) note.place).isSome = true := by
  induction rest generalizing past with
  | nil => simp [Closes]
  | cons first rest ih =>
    rw [Closes, ih]
    constructor
    · rintro ⟨here, later⟩ index note found ends
      cases index with
      | zero =>
        cases found
        rw [List.take_zero, List.append_nil]
        exact here ends
      | succ index =>
        have awaited := later index note found ends
        rwa [List.append_assoc, List.singleton_append, ← List.take_succ_cons] at awaited
    · intro all
      constructor
      · intro ends
        have awaited := all 0 first rfl ends
        rwa [List.take_zero, List.append_nil] at awaited
      · intro index note found ends
        rw [List.append_assoc, List.singleton_append, ← List.take_succ_cons]
        exact all (index + 1) note found ends

theorem closes_iff_matched {notes : List Note} :
    Closes [] notes ↔ Matched (notes.map Note.marking) := by
  rw [closes_iff]
  constructor
  · intro closes stop marking here ends
    obtain ⟨note, found, rfl⟩ := List.getElem?_map.symm.trans here |> Option.map_eq_some_iff.mp
    obtain ⟨first, awaited⟩ := Option.isSome_iff_exists.mp
      (closes stop note found (note.ends_tieMark ▸ ends))
    obtain ⟨start, before, nearest, begins⟩ := awaiting?_take.mp awaited
    refine ⟨start, first.marking, nearest, ?_, ?_⟩
    · rw [List.getElem?_map, before, Option.map_some]
    · exact first.begins_tieMark.trans begins
  · intro matched stop note found ends
    obtain ⟨start, marking, nearest, before, begins⟩ := matched stop note.marking
      (by rw [List.getElem?_map, found, Option.map_some]) (note.ends_tieMark.trans ends)
    obtain ⟨first, here, rfl⟩ := Option.map_eq_some_iff.mp (List.getElem?_map.symm.trans before)
    refine Option.isSome_iff_exists.mpr ⟨first, awaiting?_take.mpr ⟨start, here, nearest, ?_⟩⟩
    exact first.begins_tieMark.symm.trans begins

theorem firstUnmatched_of_closes {before : List Note} {note : Note} (after : List Note)
    (closes : Closes [] before) (unmatched : ¬ Closes [] (before ++ [note])) :
    FirstUnmatched ((before ++ note :: after).map Note.marking) before.length := by
  constructor
  · rw [← List.map_take, List.take_left]
    exact closes_iff_matched.mp closes
  · rw [← List.map_take, List.take_length_add_append, List.take_succ_cons, List.take_zero]
    exact fun matched => unmatched (closes_iff_matched.mpr matched)

/-- `start` awaits the end of its tie when the note at `stop` ends one. -/
structure Joins (notes : List Note) (first second : Note) : Prop where
  ends : second.endsTie = true
  awaited : ∃ index, notes[index]? = some second ∧
    awaiting? (notes.take index) second.place = some first

theorem joins_append {past : List Note} {note first second : Note} :
    Joins (past ++ [note]) first second ↔ Joins past first second ∨
      note.endsTie = true ∧ second = note ∧ awaiting? past note.place = some first := by
  constructor
  · rintro ⟨ends, index, here, awaited⟩
    rcases Nat.lt_trichotomy index past.length with inside | last | outside
    · rw [List.getElem?_append_left inside] at here
      rw [List.take_append_of_le_length (Nat.le_of_lt inside)] at awaited
      exact .inl ⟨ends, index, here, awaited⟩
    · subst last
      rw [List.getElem?_concat_length] at here
      cases here
      rw [List.take_left] at awaited
      exact .inr ⟨ends, rfl, awaited⟩
    · rw [List.getElem?_eq_none (by simp; omega)] at here
      cases here
  · rintro (⟨ends, index, here, awaited⟩ | ⟨ends, rfl, awaited⟩)
    · have inside := (List.getElem?_eq_some_iff.mp here).1
      refine ⟨ends, index, ?_, ?_⟩
      · rw [List.getElem?_append_left inside, here]
      · rw [List.take_append_of_le_length (Nat.le_of_lt inside), awaited]
    · refine ⟨ends, past.length, List.getElem?_concat_length, ?_⟩
      rw [List.take_left, awaited]

/-- Where every end is matched, the note that awaits it is the nearest marked one. -/
theorem joins_iff {notes : List Note} (closes : Closes [] notes) {first second : Note} :
    Joins notes first second ↔ ∃ start stop, notes[start]? = some first ∧
      notes[stop]? = some second ∧ Leads (notes.map Note.marking) start stop := by
  constructor
  · rintro ⟨ends, stop, here, awaited⟩
    obtain ⟨start, before, nearest, -⟩ := awaiting?_take.mp awaited
    refine ⟨start, stop, before, here, second.marking, ?_, ?_, nearest⟩
    · rw [List.getElem?_map, here, Option.map_some]
    · exact second.ends_tieMark.trans ends
  · rintro ⟨start, stop, before, here, marking, there, ends, nearest⟩
    rw [List.getElem?_map, here] at there
    cases there
    have ends := second.ends_tieMark.symm.trans ends
    refine ⟨ends, stop, here, awaiting?_take.mpr ⟨start, before, nearest, ?_⟩⟩
    obtain ⟨other, awaited⟩ :=
      Option.isSome_iff_exists.mp (closes_iff.mp closes stop second here ends)
    obtain ⟨same, found, near, begins⟩ := awaiting?_take.mp awaited
    cases nearest.unique near
    cases before.symm.trans found
    exact begins

namespace Document.Ties

/-- The tie that a note ends is linked and awaits no other end. -/
def closed (ties : Ties) (mark : TieMark) (start : Nat) (note : Note) : Ties :=
  if mark.ends then
    { ties with
      started := ties.started.filter (·.1 != note.place)
      links := (start, note.id) :: ties.links }
  else ties

/-- A note that begins a tie awaits its end. -/
def opened (ties : Ties) (mark : TieMark) (note : Note) : Ties :=
  if mark.begins then ties.begin note.place note.id else ties

theorem lookup_closed (ties : Ties) (mark : TieMark) (start : Nat) (note : Note)
    (place : Letter × Int) : (ties.closed mark start note).started.lookup place =
      if mark.ends = true ∧ place = note.place then none else ties.started.lookup place := by
  unfold closed
  split
  next ends => rw [lookup_filter_ne]; simp only [ends, true_and]
  next goesOn => rw [if_neg fun both => goesOn both.1]

theorem lookup_opened (ties : Ties) (mark : TieMark) (note : Note) (place : Letter × Int) :
    (ties.opened mark note).started.lookup place =
      if mark.begins = true ∧ place = note.place then some note.id
      else ties.started.lookup place := by
  unfold opened
  split
  next begins =>
    rw [begin, lookup_cons_ite, lookup_filter_ne]
    simp only [begins, true_and]
    split <;> rfl
  next plain => rw [if_neg fun both => plain both.1]

theorem links_opened (ties : Ties) (mark : TieMark) (note : Note) :
    (ties.opened mark note).links = ties.links := by
  unfold opened
  split <;> rfl

theorem nextId_opened (ties : Ties) (mark : TieMark) (note : Note) :
    (ties.opened mark note).nextId = ties.nextId := by
  unfold opened
  split <;> rfl

theorem nextId_closed (ties : Ties) (mark : TieMark) (start : Nat) (note : Note) :
    (ties.closed mark start note).nextId = ties.nextId := by
  unfold closed
  split <;> rfl

theorem mark_eq {ties : Ties} {mark : TieMark} {note : Note} (start : Nat)
    (found : mark.ends = true → ties.started.lookup note.place = some start) :
    ties.mark mark note =
      .ok (note.marked mark, (ties.closed mark start note).opened mark note) := by
  cases ends : mark.ends with
  | false =>
    simp only [Ties.mark, closed, Note.marked, ends, Bool.false_eq_true, if_false]
    rfl
  | true =>
    have awaiting : ties.started.lookup (note.letter, note.octave) = some start := found ends
    simp only [Ties.mark, closed, finish?, Note.marked, ends, awaiting, if_true, Option.map_some,
      Option.elim_some]
    rfl

theorem mark_eq_error {ties : Ties} {mark : TieMark} {note : Note} (ends : mark.ends = true)
    (absent : ties.started.lookup note.place = none) :
    ties.mark mark note = .error (.tieEnd note) := by
  have nothing : ties.started.lookup (note.letter, note.octave) = none := absent
  simp only [Ties.mark, ends, if_true, finish?, nothing, Option.map_none, Option.elim_none]
  rfl

theorem nextId_of_mark {ties after : Ties} {mark : TieMark} {note made : Note}
    (marked : ties.mark mark note = .ok (made, after)) : after.nextId = ties.nextId := by
  cases here : ties.started.lookup note.place with
  | some start =>
    rw [mark_eq start fun _ => here] at marked
    cases marked
    rw [nextId_opened, nextId_closed]
  | none =>
    by_cases ends : mark.ends = true
    · rw [mark_eq_error ends here] at marked
      cases marked
    · rw [mark_eq 0 fun closes => absurd closes ends] at marked
      cases marked
      rw [nextId_opened, nextId_closed]

/-- The notes that await an end, and the links made, are those of the notes marked so far. -/
structure Keeps (ties : Ties) (past : List Note) : Prop where
  started : ∀ place, ties.started.lookup place = (awaiting? past place).map Note.id
  links : ∀ start stop, (start, stop) ∈ ties.links ↔
    ∃ first second, Joins past first second ∧ first.id = start ∧ second.id = stop

namespace Keeps
variable {ties : Ties} {past : List Note}

theorem empty (nextId : Nat) : Keeps { nextId } [] := by
  constructor
  · exact fun _ => rfl
  · intro start stop
    constructor
    · exact nofun
    · rintro ⟨first, second, ⟨-, index, here, -⟩, -⟩
      cases here

theorem renumbered (keeps : ties.Keeps past) (nextId : Nat) : { ties with nextId }.Keeps past :=
  ⟨keeps.started, keeps.links⟩

theorem mark_fails (keeps : ties.Keeps past) {note : Note} {mark : TieMark}
    (ends : mark.ends = true) (unawaited : awaiting? past note.place = none) :
    ties.mark mark note = .error (.tieEnd note) := by
  refine mark_eq_error ends ?_
  rw [keeps.started, unawaited, Option.map_none]

private theorem links_plain (keeps : ties.Keeps past) (note : Note) (goesOn : note.endsTie = false)
    (start stop : Nat) : (start, stop) ∈ ties.links ↔
      ∃ first second, Joins (past ++ [note]) first second ∧
        first.id = start ∧ second.id = stop := by
  simp only [keeps.links, joins_append, goesOn, Bool.false_eq_true, false_and, or_false]

private theorem links_cons (keeps : ties.Keeps past) (note : Note) {opening : Note}
    (ends : note.endsTie = true) (awaited : awaiting? past note.place = some opening)
    (start stop : Nat) : (start, stop) ∈ (opening.id, note.id) :: ties.links ↔
      ∃ first second, Joins (past ++ [note]) first second ∧
        first.id = start ∧ second.id = stop := by
  rw [List.mem_cons, keeps.links]
  constructor
  · rintro (same | ⟨first, second, joins, ids⟩)
    · cases same
      exact ⟨opening, note, joins_append.mpr (.inr ⟨ends, rfl, awaited⟩), rfl, rfl⟩
    · exact ⟨first, second, joins_append.mpr (.inl joins), ids⟩
  · rintro ⟨first, second, joins, rfl, rfl⟩
    rcases joins_append.mp joins with earlier | ⟨-, rfl, found⟩
    · exact .inr ⟨first, second, earlier, rfl, rfl⟩
    · rw [awaited] at found
      cases found
      exact .inl rfl

private theorem started_marked (keeps : ties.Keeps past) (mark : TieMark) (start : Nat)
    (note : Note)
    (place : Letter × Int) :
    ((ties.closed mark start note).opened mark note).started.lookup place =
      (awaiting? (past ++ [note.marked mark]) place).map Note.id := by
  have there : (note.marked mark).isMarkedAt place =
      ((mark.begins || mark.ends) && note.place = place) := rfl
  have begins : (note.marked mark).beginsTie = mark.begins := rfl
  rw [lookup_opened, lookup_closed, awaiting?_append, keeps.started, there, begins]
  by_cases here : place = note.place
  · subst here
    cases mark <;> simp [TieMark.begins, TieMark.ends, Note.marked]
  · simp [here, Ne.symm here]

private theorem links_marked (keeps : ties.Keeps past) {mark : TieMark} {first note : Note}
    (awaited : mark.ends = true → awaiting? past note.place = some first) (start stop : Nat) :
    (start, stop) ∈ ((ties.closed mark first.id note).opened mark note).links ↔
      ∃ first second, Joins (past ++ [note.marked mark]) first second ∧
        first.id = start ∧ second.id = stop := by
  rw [links_opened, closed]
  split
  next ends => exact keeps.links_cons (note.marked mark) ends (awaited ends) start stop
  next goesOn =>
    exact keeps.links_plain (note.marked mark) (Bool.eq_false_iff.mpr goesOn) start stop

theorem mark_succeeds (keeps : ties.Keeps past) {mark : TieMark} {note : Note}
    (awaited : mark.ends = true → (awaiting? past note.place).isSome = true) :
    ∃ after, ties.mark mark note = .ok (note.marked mark, after) ∧
      after.Keeps (past ++ [note.marked mark]) ∧ after.nextId = ties.nextId := by
  -- A mark that ends nothing leaves the awaiting note open, and then any note will do.
  obtain ⟨first, found⟩ : ∃ first, mark.ends = true → awaiting? past note.place = some first := by
    cases here : awaiting? past note.place with
    | none => exact ⟨note, fun ends => nomatch here ▸ awaited ends⟩
    | some first => exact ⟨first, fun _ => rfl⟩
  refine ⟨(ties.closed mark first.id note).opened mark note, mark_eq first.id fun ends => ?_,
    ⟨?_, ?_⟩, ?_⟩
  · rw [keeps.started, found ends, Option.map_some]
  · exact keeps.started_marked mark first.id note
  · exact keeps.links_marked found
  · rw [nextId_opened, nextId_closed]

end Keeps

end Document.Ties

end ScorePlayback
