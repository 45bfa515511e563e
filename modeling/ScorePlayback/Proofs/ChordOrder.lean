import Mathlib.Data.List.Forall2
import ScorePlayback.Proofs.TieLinks
import ScorePlayback.Proofs.Timings

/-! The order of the notes in a chord. A chord lasts as long as the first of its shortest notes, and
a tie may make one of these last longer than another. So the order counts, unless they all last
equally long; then nothing after the chord depends on it either. -/

namespace ScorePlayback

namespace Chord

/-- The shortest of the notes that end no tie, by what is notated. The length of the chord is taken
from one of them. -/
def representatives (chord : Chord) : List Note :=
  chord.withoutTieEndings.filter fun note =>
    chord.withoutTieEndings.all (note.duration ≤ ·.duration)

/-- Whether it makes no difference which of the shortest notes the length is taken from. -/
def EvenIn (score : Score) (resolution : Int) (chord : Chord) : Prop :=
  ∀ first ∈ chord.representatives, ∀ second ∈ chord.representatives,
    first.ticks score resolution = second.ticks score resolution

instance (score : Score) (resolution : Int) (chord : Chord) :
    Decidable (chord.EvenIn score resolution) :=
  inferInstanceAs (Decidable (∀ first ∈ chord.representatives, ∀ second ∈ chord.representatives,
    first.ticks score resolution = second.ticks score resolution))

/-- The lengths that a chord has in one order of its notes or another. A chord of tie endings alone
takes no time. -/
def MayLast (score : Score) (resolution : Int) (chord : Chord) (length : Int) : Prop :=
  (chord.withoutTieEndings = [] ∧ length = 0) ∨
    ∃ note ∈ chord.representatives, note.ticks score resolution = length

variable {chord other : Chord} {note : Note} {score : Score} {resolution length : Int}

theorem mem_representatives_iff : note ∈ chord.representatives ↔
    note ∈ chord.withoutTieEndings ∧
      ∀ other ∈ chord.withoutTieEndings, note.duration ≤ other.duration := by
  rw [representatives, List.mem_filter, List.all_eq_true]
  simp only [decide_eq_true_eq]

theorem MayLast.of_perm (order : other.notes.Perm chord.notes)
    (lasts : other.MayLast score resolution length) : chord.MayLast score resolution length := by
  have played : other.withoutTieEndings.Perm chord.withoutTieEndings := order.filter _
  rcases lasts with ⟨nothing, zero⟩ | ⟨note, member, same⟩
  · rw [nothing] at played
    exact .inl ⟨List.nil_perm.mp played, zero⟩
  · refine .inr ⟨note, ?_, same⟩
    rw [mem_representatives_iff] at member ⊢
    simp only [← played.mem_iff]
    exact member

theorem mayLast_ticks (score : Score) (resolution : Int) (chord : Chord) :
    chord.MayLast score resolution (chord.ticks score resolution) := by
  unfold ticks
  cases found : shortest? chord.withoutTieEndings with
  | none => exact .inl ⟨shortest?_eq_none_iff.mp found, rfl⟩
  | some note => exact .inr ⟨note, mem_representatives_iff.mpr (shortest?_spec found), rfl⟩

/-- Any of the shortest notes decides in some order: in one that begins with it. -/
theorem exists_order (member : note ∈ chord.representatives) :
    ∃ other : Chord, other.notes.Perm chord.notes ∧
      other.ticks score resolution = note.ticks score resolution := by
  obtain ⟨inside, least⟩ := mem_representatives_iff.mp member
  obtain ⟨among, played⟩ := List.mem_filter.mp inside
  obtain ⟨before, after, split⟩ := List.append_of_mem among
  refine ⟨⟨note :: (before ++ after)⟩, ?_, ?_⟩
  · rw [split]
    exact List.perm_middle.symm
  · have first : withoutTieEndings ⟨note :: (before ++ after)⟩ =
        note :: (before ++ after).filter (!·.endsTie) := List.filter_cons_of_pos played
    have found : shortest? (withoutTieEndings ⟨note :: (before ++ after)⟩) = some note := by
      rw [first]
      apply shortest?_cons
      intro another later
      obtain ⟨present, kept⟩ := List.mem_filter.mp later
      apply least
      rw [withoutTieEndings, split]
      exact List.mem_filter.mpr ⟨List.perm_middle.mem_iff.mpr (List.mem_cons_of_mem _ present), kept⟩
    rw [ticks, found]
    rfl

theorem exists_order_iff : (∃ other : Chord, other.notes.Perm chord.notes ∧
    other.ticks score resolution = length) ↔ chord.MayLast score resolution length := by
  constructor
  · rintro ⟨other, order, rfl⟩
    exact (other.mayLast_ticks score resolution).of_perm order
  · rintro (⟨nothing, rfl⟩ | ⟨note, member, rfl⟩)
    · refine ⟨chord, .refl _, ?_⟩
      rw [ticks, nothing]
      rfl
    · exact exists_order member

theorem MayLast.unique (even : chord.EvenIn score resolution) {first second : Int}
    (one : chord.MayLast score resolution first) (two : chord.MayLast score resolution second) :
    first = second := by
  have played {note : Note} (member : note ∈ chord.representatives) :
      chord.withoutTieEndings ≠ [] :=
    List.ne_nil_of_mem (mem_representatives_iff.mp member).1
  rcases one with ⟨nothing, rfl⟩ | ⟨note, member, rfl⟩
  · rcases two with ⟨-, rfl⟩ | ⟨other, among, rfl⟩
    · rfl
    · exact absurd nothing (played among)
  · rcases two with ⟨nothing, rfl⟩ | ⟨other, among, rfl⟩
    · exact absurd nothing (played member)
    · exact even note member other among

theorem EvenIn.ticks_eq (even : chord.EvenIn score resolution)
    (order : other.notes.Perm chord.notes) :
    other.ticks score resolution = chord.ticks score resolution :=
  MayLast.unique even ((other.mayLast_ticks score resolution).of_perm order)
    (chord.mayLast_ticks score resolution)

theorem ticks_perm_iff : (∀ other : Chord, other.notes.Perm chord.notes →
    other.ticks score resolution = chord.ticks score resolution) ↔
      chord.EvenIn score resolution := by
  constructor
  · intro same first member second among
    obtain ⟨one, order, here⟩ := exists_order member
    obtain ⟨two, reorder, there⟩ := exists_order among
    rw [← here, ← there, same one order, same two reorder]
  · intro even other order
    exact even.ticks_eq order

/-- Notes that begin no tie last as long as they are notated. -/
theorem evenIn_of_untied (untied : ∀ note ∈ chord.representatives, note.beginsTie = false) :
    chord.EvenIn score resolution := by
  intro first member second among
  obtain ⟨one, least⟩ := mem_representatives_iff.mp member
  obtain ⟨two, lowest⟩ := mem_representatives_iff.mp among
  have same := Nat.le_antisymm (least second two) (lowest first one)
  simp only [Note.ticks, Note.partnerUnits, untied first member, untied second among, same,
    Bool.false_eq_true, if_false]

end Chord

/-! Scores with their chords in another order -/

theorem find?_of_perm {first second : List Note} (order : second.Perm first)
    (identified : ∀ one ∈ first, ∀ other ∈ first, one.id = other.id → one = other) (id : Nat) :
    second.find? (·.id == id) = first.find? (·.id == id) := by
  cases found : first.find? (·.id == id) with
  | none =>
    apply List.find?_eq_none.mpr
    intro note member
    exact List.find?_eq_none.mp found note (order.mem_iff.mp member)
  | some note =>
    have member := List.mem_of_find?_eq_some found
    have known := List.find?_some found
    cases again : second.find? (·.id == id) with
    | none => exact absurd known (List.find?_eq_none.mp again note (order.mem_iff.mpr member))
    | some other =>
      have among := order.mem_iff.mp (List.mem_of_find?_eq_some again)
      have here : note.id = id := by simpa using known
      have there : other.id = id := by simpa using List.find?_some again
      rw [identified other among note member (there.trans here.symm)]

/-- An item as it is, or a chord with its notes in another order that does not count. -/
inductive Item.Reordered (score : Score) (resolution : Int) : Item → Item → Prop
  | same (item : Item) : Reordered score resolution item item
  | chord {first second : Chord} (order : second.notes.Perm first.notes)
      (even : first.EvenIn score resolution) :
      Reordered score resolution (.chord first) (.chord second)

private theorem Item.Reordered.flatMap_notes {score : Score} {resolution : Int}
    {items others : List Item}
    (reordered : List.Forall₂ (Item.Reordered score resolution) items others) :
    (others.flatMap Item.notes).Perm (items.flatMap Item.notes) := by
  induction reordered with
  | nil => exact .refl _
  | cons here _ ih =>
    rw [List.flatMap_cons, List.flatMap_cons]
    refine .append ?_ ih
    cases here with
    | same => exact .refl _
    | chord order => exact order

namespace Score

/-- Notes of one identity are one note. -/
def Identified (score : Score) : Prop :=
  ∀ first ∈ score.notes, ∀ second ∈ score.notes, first.id = second.id → first = second

def Reordered (resolution : Int) (score other : Score) : Prop :=
  List.Forall₂ (Item.Reordered score resolution) score.items other.items

theorem identified_of_nodup {score : Score} (distinct : (score.notes.map Note.id).Nodup) :
    score.Identified := by
  intro first member second among same
  exact List.inj_on_of_nodup_map distinct member among same

section Partners
variable {score other : Score} {resolution : Int} (reordered : score.Reordered resolution other)
include reordered

theorem Reordered.notes : other.notes.Perm score.notes :=
  Item.Reordered.flatMap_notes reordered

variable (identified : score.Identified)
include identified

theorem Reordered.find?_eq (id : Nat) : other.find? id = score.find? id := by
  rw [Score.find?_eq, Score.find?_eq]
  exact find?_of_perm reordered.notes identified id

theorem Reordered.ticks_eq (note : Note) :
    note.ticks other resolution = note.ticks score resolution := by
  apply Note.ticks_congr
  intro begins
  rw [funext (reordered.find?_eq identified)]

end Partners

end Score

/-! What is played -/

namespace Item.Reordered
variable {score : Score} {resolution : Int} {item other : Item}
  (reordered : item.Reordered score resolution other)
include reordered

private theorem next_eq (cursor : Cursor) : cursor.next other = cursor.next item := by
  cases reordered with
  | same => rfl
  | chord => rfl

theorem performed (index : Nat) (repeats : RepeatState) :
    List.Forall₂ (Item.Reordered score resolution)
      (Visit.performed ⟨index, item, repeats⟩).toList
      (Visit.performed ⟨index, other, repeats⟩).toList := by
  cases reordered with
  | same => exact List.forall₂_same.mpr fun item _ => .same item
  | chord order even =>
    simp only [Visit.performed]
    split
    next => exact .nil
    next => exact .cons (.chord order even) .nil

end Item.Reordered

namespace Score
variable {score other : Score} {resolution : Int}

private theorem Reordered.getElem? (reordered : score.Reordered resolution other) {index : Nat}
    {item : Item}
    (here : score.items[index]? = some item) :
    ∃ changed, other.items[index]? = some changed ∧ item.Reordered score resolution changed := by
  obtain ⟨inside, rfl⟩ := List.getElem?_eq_some_iff.mp here
  have within : index < other.items.length := reordered.length_eq ▸ inside
  exact ⟨other.items[index], List.getElem?_eq_getElem within, reordered.get inside within⟩

theorem Reordered.performedFrom (reordered : score.Reordered resolution other) (cursor : Cursor) :
    List.Forall₂ (Item.Reordered score resolution) (score.performedFrom cursor)
      (other.performedFrom cursor) := by
  fun_induction Score.routeFrom score cursor with
  | case1 cursor past =>
    have ended : other.items[cursor.index]? = none := by
      rw [List.getElem?_eq_none_iff] at past ⊢
      rw [← reordered.length_eq]
      exact past
    rw [performedFrom_of_none past, performedFrom_of_none ended]
    exact .nil
  | case2 cursor item here ih =>
    obtain ⟨changed, there, alike⟩ := reordered.getElem? here
    rw [performedFrom_of_some here, performedFrom_of_some there, alike.next_eq]
    exact List.rel_append (alike.performed cursor.index cursor.repeats) ih

end Score

/-- Parts of two scores that last equally long, with as many notes. -/
structure Part.Alike (score other : Score) (resolution : Int) (first second : Part) : Prop where
  length : second.length other resolution = first.length score resolution
  timings : ∀ start stop, second.timings start stop = first.timings start stop

theorem Score.timings_congr {score other : Score} {resolution : Int} {parts others : List Part}
    (alike : List.Forall₂ (Part.Alike score other resolution) parts others) (tick : Int) :
    other.timings resolution tick others = score.timings resolution tick parts := by
  induction alike generalizing tick with
  | nil => rfl
  | cons here _ ih => simp only [timings, here.length, here.timings, ih]

section Played
variable {score other : Score} {resolution : Int} (reordered : score.Reordered resolution other)
  (identified : score.Identified)
include reordered identified

theorem Part.alike_self (part : Part) : part.Alike score other resolution part := by
  refine ⟨?_, fun _ _ => rfl⟩
  have same := reordered.ticks_eq identified
  cases part with
  | tempo => rfl
  | single note => exact same note
  | chord together => exact Chord.ticks_congr resolution fun note _ => same note

theorem Item.Reordered.parts {item changed : Item}
    (alike : item.Reordered score resolution changed) :
    List.Forall₂ (Part.Alike score other resolution) item.parts changed.parts := by
  cases alike with
  | same =>
    apply List.forall₂_same.mpr
    intro part member
    exact part.alike_self reordered identified
  | @chord first second order even =>
    refine .cons ⟨?_, ?_⟩ .nil
    · exact ((Part.chord second).alike_self reordered identified).length.trans (even.ticks_eq order)
    · intro start stop
      have sounding : (Part.chord second).sounding.length = (Part.chord first).sounding.length :=
        (order.filter Note.sounds).length_eq
      simp only [Part.timings, sounding]

theorem Score.Reordered.parts :
    List.Forall₂ (Part.Alike score other resolution) score.parts other.parts :=
  List.rel_flatMap (reordered.performedFrom .start) fun _ _ alike =>
    alike.parts reordered identified

end Played

/-- By its order alone a chord lasts as long as any of its shortest notes. The order does not count
if and only if they all last equally long, as they do where none of them begins a tie, and
reordering such chords moves no event of the track. -/
theorem Converter.timings_reordered (converter : Converter) (score : Score) :
    (∀ (resolution : Int) (chord : Chord),
      (∀ length, (∃ other : Chord, other.notes.Perm chord.notes ∧
        other.ticks score resolution = length) ↔ chord.MayLast score resolution length) ∧
      ((∀ other : Chord, other.notes.Perm chord.notes →
        other.ticks score resolution = chord.ticks score resolution) ↔
          chord.EvenIn score resolution) ∧
      ((∀ note ∈ chord.representatives, note.beginsTie = false) →
        chord.EvenIn score resolution)) ∧
    ∀ (other : Score) (track changed : Track),
      score.Identified → score.Reordered converter.resolution other →
      (converter.convert score).result = .ok track →
      (converter.convert other).result = .ok changed →
      changed.events.map Event.timing = track.events.map Event.timing := by
  constructor
  · intro resolution chord
    exact ⟨fun length => Chord.exists_order_iff, Chord.ticks_perm_iff, Chord.evenIn_of_untied⟩
  · intro other track changed identified reordered converted again
    have parts := reordered.parts identified
    rw [timings_convert converted, timings_convert again, Score.timings_congr parts]

/-- A chord, then the end of a tie and a note after it. -/
def Score.sustaining (notes : List Note) : Score where
  items := [.chord ⟨notes⟩, .note { id := 2, endsTie := true }, .note { id := 3, letter := .d }]

def Note.tiedQuarter : Note := { id := 0, beginsTie := true, tiedTo := some 2 }

def Note.half : Note := { id := 1, letter := .e, duration := 192 }

theorem Converter.timings_reordered_tiedQuarter :
    ∃ track changed,
      (Converter.usual.convert (.sustaining [.tiedQuarter, .half])).result = .ok track ∧
      (Converter.usual.convert (.sustaining [.half, .tiedQuarter])).result = .ok changed ∧
      changed.events.map Event.timing = track.events.map Event.timing := by
  have first : (Converter.usual.convert (.sustaining [.tiedQuarter, .half])).result.isOk = true := by
    decide +kernel
  have second : (Converter.usual.convert (.sustaining [.half, .tiedQuarter])).result.isOk = true := by
    decide +kernel
  have converted := except_eq_ok_getD first ⟨0, []⟩
  have again := except_eq_ok_getD second ⟨0, []⟩
  have even : Chord.EvenIn (.sustaining [.tiedQuarter, .half]) 96 ⟨[.tiedQuarter, .half]⟩ := by decide
  have identified : (Score.sustaining [.tiedQuarter, .half]).Identified :=
    Score.identified_of_nodup (by decide)
  have reordered : (Score.sustaining [.tiedQuarter, .half]).Reordered 96 (.sustaining [.half, .tiedQuarter]) :=
    .cons (.chord (.swap ..) even) (.cons (.same _) (.cons (.same _) .nil))
  exact ⟨_, _, converted, again,
    (timings_reordered .usual _).2 _ _ _ identified reordered converted again⟩

/-- A chord of two quarters, of which the first is tied to one after the chord. -/
def Document.halfTied : Value := .object [("items", .array [
  .object [("type", .string "chord"), ("notes", .array [noteValue "C" "start",
    .object [("pitch", .string "E")]])],
  noteValue "C" "end"])]

def Chord.halfTied : Chord where
  notes := [.tiedQuarter, { id := 1, letter := .e }]

def Score.halfTied : Score where
  items := [.chord .halfTied, .note { id := 2, endsTie := true }]

/-- Such a chord lasts half as long when the other note is listed first. -/
theorem Chord.ticks_halfTied :
    ¬ ∀ (room : Nat) (document : Value) (score : Score) (chord other : Chord) (resolution : Int),
      Document.score room document = .ok score → .chord chord ∈ score.items →
      other.notes.Perm chord.notes →
      other.ticks score resolution = chord.ticks score resolution := by
  intro claim
  have same := claim 6 Document.halfTied .halfTied .halfTied ⟨Chord.halfTied.notes.reverse⟩ 96 rfl
    List.mem_cons_self (List.reverse_perm _)
  revert same
  decide

end ScorePlayback
