import Mathlib.Data.List.Nodup
import Mathlib.Logic.Relation
import ScorePlayback.Proofs.TieReading
import ScorePlayback.Proofs.Voltas

/-! The ties of a loaded score. A note is tied to the next marked note of its letter and octave if
that one ends a tie, and a document is refused if a tie ends that nothing has begun. -/

namespace ScorePlayback

/-- The notes of a score in order, a chord's from left to right. Grace notes are not among them. -/
def Score.notes (score : Score) : List Note := score.items.flatMap Item.notes

/-- One note of a score is tied to another. -/
structure Score.TiesTo (score : Score) (first second : Note) : Prop where
  source : first ∈ score.notes
  target : second ∈ score.notes
  tied : first.tiedTo = some second.id

theorem lookup_eq_some_iff_mem [BEq α] [LawfulBEq α] {entries : List (α × β)}
    (unique : ∀ key one other, (key, one) ∈ entries → (key, other) ∈ entries → one = other)
    {key : α} {value : β} : entries.lookup key = some value ↔ (key, value) ∈ entries := by
  have inside {found : β} (here : entries.lookup key = some found) : (key, found) ∈ entries := by
    obtain ⟨before, after, rfl, -⟩ := List.lookup_eq_some_iff.mp here
    exact List.mem_append_right _ List.mem_cons_self
  constructor
  · exact inside
  · intro member
    have present : (entries.lookup key).isSome = true :=
      List.lookup_isSome_iff.mpr ⟨_, member, beq_self_eq_true key⟩
    obtain ⟨found, here⟩ := Option.isSome_iff_exists.mp present
    rw [here, unique key found value (inside here) member]

namespace Note

private theorem sublist_families (notes : List Note) : notes.Sublist (families notes) := by
  induction notes with
  | nil => exact .slnil
  | cons note rest ih =>
    rw [families, family_eq, List.append_assoc]
    exact (ih.cons_cons note).trans (List.sublist_append_right _ _)

theorem Numbered.nodup {first last : Nat} {notes : List Note}
    (numbered : Numbered first last notes) : (notes.map Note.id).Nodup := by
  refine ((sublist_families notes).map Note.id).nodup ?_
  rw [numbered.ids]
  exact List.nodup_range'

end Note

/-- A note is known by its number. -/
theorem index_eq_of_id {notes : List Note} (distinct : (notes.map Note.id).Nodup)
    {start stop : Nat} {first second : Note} (here : notes[start]? = some first)
    (there : notes[stop]? = some second) (same : first.id = second.id) : start = stop := by
  have inside : start < (notes.map Note.id).length := by
    rw [List.length_map]
    exact (List.getElem?_eq_some_iff.mp here).1
  refine (List.getElem?_inj inside distinct).mp ?_
  rw [List.getElem?_map, List.getElem?_map, here, there, Option.map_some, Option.map_some, same]

namespace Document.Ties
variable {ties : Ties} {notes : List Note}

theorem notes_linked (ties : Ties) (items : List Item) :
    Score.notes ⟨items.map ties.linkedItem⟩ = (items.flatMap Item.notes).map ties.linked := by
  simp only [Score.notes, List.flatMap_map, List.map_flatMap, notes_linkedItem]

theorem ids_families_linked (ties : Ties) (notes : List Note) :
    (Note.families (notes.map ties.linked)).map Note.id = (Note.families notes).map Note.id := by
  induction notes with
  | nil => rfl
  | cons note rest ih =>
    rw [List.map_cons, Note.families, Note.families, Note.family_eq, Note.family_eq,
      List.map_append, List.map_append, List.map_append, List.map_append, ih]
    rfl

section
variable (keeps : ties.Keeps notes) (closes : Closes [] notes)
  (distinct : (notes.map Note.id).Nodup)
include keeps closes

theorem mem_links_iff {first second : Nat} : (first, second) ∈ ties.links ↔
    ∃ start stop one other, notes[start]? = some one ∧ notes[stop]? = some other ∧
      Leads (notes.map Note.marking) start stop ∧ one.id = first ∧ other.id = second := by
  rw [keeps.links]
  constructor
  · rintro ⟨one, other, joins, ids⟩
    obtain ⟨start, stop, here, there, leads⟩ := (joins_iff closes).mp joins
    exact ⟨start, stop, one, other, here, there, leads, ids⟩
  · rintro ⟨start, stop, one, other, here, there, leads, ids⟩
    exact ⟨one, other, (joins_iff closes).mpr ⟨start, stop, here, there, leads⟩, ids⟩

include distinct

theorem links_unique (id first second : Nat) (one : (id, first) ∈ ties.links)
    (other : (id, second) ∈ ties.links) : first = second := by
  obtain ⟨start, stop, a, b, here, there, leads, rfl, rfl⟩ := (mem_links_iff keeps closes).mp one
  obtain ⟨again, last, c, d, near, far, after, same, rfl⟩ := (mem_links_iff keeps closes).mp other
  obtain rfl := index_eq_of_id distinct near here same
  cases leads.stop_unique after
  cases there.symm.trans far
  rfl

private theorem lookup_links_iff {start stop : Nat} {first second : Note}
    (here : notes[start]? = some first) (there : notes[stop]? = some second) :
    ties.links.lookup first.id = some second.id ↔ Leads (notes.map Note.marking) start stop := by
  rw [lookup_eq_some_iff_mem (links_unique keeps closes distinct), mem_links_iff keeps closes]
  constructor
  · rintro ⟨one, other, a, b, near, far, leads, same, equal⟩
    cases index_eq_of_id distinct near here same
    cases index_eq_of_id distinct far there equal
    exact leads
  · intro leads
    exact ⟨start, stop, first, second, here, there, leads, rfl, rfl⟩

theorem tiedTo_iff {start stop : Nat} {first second : Note}
    (here : (notes.map ties.linked)[start]? = some first)
    (there : (notes.map ties.linked)[stop]? = some second) :
    first.tiedTo = some second.id ↔ Leads (notes.map Note.marking) start stop := by
  rw [List.getElem?_map, Option.map_eq_some_iff] at here there
  obtain ⟨one, here, rfl⟩ := here
  obtain ⟨other, there, rfl⟩ := there
  change ties.links.lookup one.id = some other.id ↔ _
  exact lookup_links_iff keeps closes distinct here there

theorem exists_target {first : Note} (member : first ∈ notes.map ties.linked) {id : Nat}
    (tied : first.tiedTo = some id) : ∃ second ∈ notes.map ties.linked, second.id = id := by
  obtain ⟨one, -, rfl⟩ := List.mem_map.mp member
  have linked := (lookup_eq_some_iff_mem (links_unique keeps closes distinct)).mp tied
  obtain ⟨-, stop, -, other, -, there, -, -, same⟩ := (mem_links_iff keeps closes).mp linked
  exact ⟨ties.linked other, List.mem_map_of_mem (List.mem_of_getElem? there), same⟩

end

end Document.Ties

/-- The notes of a score have different numbers, and one is tied to another if and only if that one
ends a tie and the first is the nearest marked note before it. -/
structure Score.Linked (score : Score) : Prop where
  distinct : (score.notes.map Note.id).Nodup
  links : ∀ start stop first second, score.notes[start]? = some first →
    score.notes[stop]? = some second →
      (first.tiedTo = some second.id ↔ Leads (score.notes.map Note.marking) start stop)
  targets : ∀ first ∈ score.notes, ∀ id, first.tiedTo = some id →
    ∃ second ∈ score.notes, second.id = id

namespace Score.Linked
variable {score : Score} (linked : score.Linked)
include linked

theorem find?_of_mem {note : Note} (member : note ∈ score.notes) :
    score.find? note.id = some note := by
  rw [find?_eq]
  cases found : (score.items.flatMap Item.notes).find? (·.id == note.id) with
  | none => exact absurd (beq_self_eq_true note.id) (List.find?_eq_none.mp found note member)
  | some other =>
    have same : other.id = note.id := by simpa using List.find?_some found
    have inside : other ∈ score.notes := List.mem_of_find?_eq_some found
    rw [List.inj_on_of_nodup_map linked.distinct inside member same]

theorem leads {first second : Note} (ties : score.TiesTo first second) :
    ∃ start stop, score.notes[start]? = some first ∧ score.notes[stop]? = some second ∧
      Leads (score.notes.map Note.marking) start stop := by
  obtain ⟨start, here⟩ := List.getElem?_of_mem ties.source
  obtain ⟨stop, there⟩ := List.getElem?_of_mem ties.target
  exact ⟨start, stop, here, there, (linked.links start stop first second here there).mp ties.tied⟩

theorem injective {first other second : Note} (one : score.TiesTo first second)
    (two : score.TiesTo other second) : first = other := by
  obtain ⟨start, stop, here, there, leads⟩ := linked.leads one
  obtain ⟨again, last, near, far, follows⟩ := linked.leads two
  cases index_eq_of_id linked.distinct there far rfl
  cases leads.start_unique follows
  exact Option.some.inj (here.symm.trans near)

/-- Along ties the position only grows. -/
theorem later {first second : Note} (reach : Relation.TransGen score.TiesTo first second) :
    ∃ start stop : Nat, score.notes[start]? = some first ∧ score.notes[stop]? = some second ∧
      start < stop := by
  induction reach with
  | single ties =>
    obtain ⟨start, stop, here, there, leads⟩ := linked.leads ties
    exact ⟨start, stop, here, there, leads.before⟩
  | tail _ ties ih =>
    obtain ⟨start, middle, here, between, before⟩ := ih
    obtain ⟨again, stop, near, there, leads⟩ := linked.leads ties
    cases index_eq_of_id linked.distinct between near rfl
    exact ⟨start, stop, here, there, Nat.lt_trans before leads.before⟩

theorem acyclic (note : Note) : ¬ Relation.TransGen score.TiesTo note note := by
  intro reach
  obtain ⟨start, stop, here, there, before⟩ := linked.later reach
  exact absurd (index_eq_of_id linked.distinct here there rfl) (Nat.ne_of_lt before)

end Score.Linked

namespace Document

/-- The notes of a score are in the ties that a document marks. -/
structure TiedAs (markings : List Marking) (loaded : Score) : Prop where
  places : loaded.notes.map Note.place = markings.map Marking.place
  begins : loaded.notes.map Note.beginsTie = markings.map (·.mark.begins)
  ends : loaded.notes.map Note.endsTie = markings.map (·.mark.ends)
  distinct : ((Note.families loaded.notes).map Note.id).Nodup
  grace : ∀ note ∈ loaded.notes, ∀ other ∈ Note.families note.grace, other.Untied
  links : ∀ start stop first second, loaded.notes[start]? = some first →
    loaded.notes[stop]? = some second →
      (first.tiedTo = some second.id ↔ Leads markings start stop)
  partners : ∀ first ∈ loaded.notes, ∀ id, first.tiedTo = some id →
    ∃ second ∈ loaded.notes, second.id = id ∧ loaded.find? id = some second
  injective : ∀ first other second, loaded.TiesTo first second → loaded.TiesTo other second →
    first = other
  forward : ∀ (start stop : Nat) (first second : Note), loaded.notes[start]? = some first →
    loaded.notes[stop]? = some second → first.tiedTo = some second.id → start < stop
  acyclic : ∀ note, ¬ Relation.TransGen loaded.TiesTo note note

section Loaded
variable {ties : Ties} {markings : List Marking} {plain : List Note} {items : List Item}
  (described : Described 0 ties.nextId markings plain (items.flatMap Item.notes))
include described

theorem markings_linked :
    (Score.notes ⟨items.map ties.linkedItem⟩).map Note.marking = markings := by
  rw [Ties.notes_linked, List.map_map, ← described.markings]
  rfl

theorem linked (keeps : ties.Keeps (items.flatMap Item.notes)) (matched : Matched markings) :
    Score.Linked ⟨items.map ties.linkedItem⟩ := by
  have notes := ties.notes_linked items
  have distinct := described.numbered.nodup
  have closes : Closes [] (items.flatMap Item.notes) := by
    rw [closes_iff_matched, described.markings]
    exact matched
  constructor
  · rw [notes, List.map_map]
    exact distinct
  · intro start stop first second here there
    rw [markings_linked described]
    rw [notes] at here there
    rw [Ties.tiedTo_iff keeps closes distinct here there, described.markings]
  · rw [notes]
    exact fun first member id tied => Ties.exists_target keeps closes distinct member tied

private theorem tiedAs (linked : Score.Linked ⟨items.map ties.linkedItem⟩) :
    TiedAs markings ⟨items.map ties.linkedItem⟩ := by
  have notes := ties.notes_linked items
  have marks := markings_linked described
  constructor
  case places =>
    rw [← marks, List.map_map]
    rfl
  case begins =>
    rw [← marks, List.map_map]
    exact List.map_congr_left fun note _ => note.begins_tieMark.symm
  case ends =>
    rw [← marks, List.map_map]
    exact List.map_congr_left fun note _ => note.ends_tieMark.symm
  case distinct =>
    rw [notes, Ties.ids_families_linked, described.numbered.ids]
    exact List.nodup_range'
  case grace =>
    intro note member
    rw [notes] at member
    obtain ⟨plain, inside, rfl⟩ := List.mem_map.mp member
    exact described.numbered.grace plain inside
  case links =>
    rw [← marks]
    exact linked.links
  case partners =>
    intro first member id tied
    obtain ⟨second, inside, rfl⟩ := linked.targets first member id tied
    exact ⟨second, inside, rfl, linked.find?_of_mem inside⟩
  case injective => exact fun _ _ _ => linked.injective
  case forward =>
    intro start stop first second here there tied
    exact ((linked.links start stop first second here there).mp tied).before
  case acyclic => exact linked.acyclic

end Loaded

/-- What is loaded is linked, and its ends are matched. -/
theorem linked_of_score {room : Nat} {document : Value} {loaded : Score}
    (read : score room document = .ok loaded) :
    loaded.Linked ∧ Matched (loaded.notes.map Note.marking) := by
  obtain ⟨plain, markings, otherwise, known⟩ := exists_untied read
  rcases score_cases otherwise known with ⟨-, stop, note, -, -, refused⟩ |
    ⟨matched, items, ties, again, described, keeps⟩
  · rw [refused] at read
    cases read
  · cases again.symm.trans read
    rw [markings_linked described]
    exact ⟨linked described keeps matched, matched⟩

/-- The ties of a document that is well formed otherwise: it loads if and only if the nearest marked
note before each end, at its letter and octave, begins a tie, and then these are the ties. The first
end that is unmatched is complained of, if its note can be written. -/
theorem score_ties (room : Nat) (document : Value) (plain : Score) (markings : List Marking)
    (otherwise : score room (withoutTies document) = .ok plain)
    (known : markings? document = some markings) :
    ((∃ loaded, score room document = .ok loaded) ↔ Matched markings) ∧
    (¬ Matched markings → ∃ stop note, FirstUnmatched markings stop ∧
      plain.notes[stop]? = some note ∧ score room document =
        .error (if note.isWritable then .malformed (.tieEnd note) else .limit .digitsWritten)) ∧
    ∀ loaded, score room document = .ok loaded → TiedAs markings loaded := by
  rcases score_cases otherwise known with ⟨unmatched, stop, note, first, here, refused⟩ |
    ⟨matched, items, ties, read, described, keeps⟩
  · rw [refuse_tieEnd] at refused
    refine ⟨⟨?_, fun matched => absurd matched unmatched⟩,
      fun _ => ⟨stop, note, first, here, refused⟩, ?_⟩
    · rintro ⟨loaded, read⟩
      rw [refused] at read
      cases read
    · intro loaded read
      rw [refused] at read
      cases read
  · refine ⟨⟨fun _ => matched, fun _ => ⟨_, read⟩⟩, fun unmatched => absurd matched unmatched, ?_⟩
    intro loaded again
    cases read.symm.trans again
    exact tiedAs described (linked described keeps matched)

/-- A note in a document, with a tie field. -/
def noteValue (pitch word : String) : Value :=
  .object [("type", .string "note"), ("pitch", .string pitch), ("tie", .string word)]

/-- A tie from a note into a chord and on, and another one that begins in the chord. -/
def tiedChord : Value := .object [("items", .array [
  noteValue "C" "start",
  .object [("type", .string "chord"),
    ("notes", .array [noteValue "c" "continue", noteValue "E" "start"])],
  noteValue "C" "end", noteValue "e" "end"])]

theorem score_ties_tiedChord :
    (score 6 (withoutTies tiedChord)).isOk = true ∧
    markings? tiedChord = some [⟨(.c, 0), .start⟩, ⟨(.c, 0), .through⟩, ⟨(.e, 0), .start⟩,
      ⟨(.c, 0), .stop⟩, ⟨(.e, 0), .stop⟩] ∧
    ∃ loaded, score 6 tiedChord = .ok loaded ∧
      loaded.notes.map Note.tiedTo = [some 1, some 3, some 4, none, none] ∧
      TiedAs [⟨(.c, 0), .start⟩, ⟨(.c, 0), .through⟩, ⟨(.e, 0), .start⟩, ⟨(.c, 0), .stop⟩,
        ⟨(.e, 0), .stop⟩] loaded := by
  have otherwise : (score 6 (withoutTies tiedChord)).isOk = true := by decide +kernel
  have known : markings? tiedChord = some [⟨(.c, 0), .start⟩, ⟨(.c, 0), .through⟩,
      ⟨(.e, 0), .start⟩, ⟨(.c, 0), .stop⟩, ⟨(.e, 0), .stop⟩] := by decide +kernel
  have links : (score 6 tiedChord).toOption.map (fun loaded => loaded.notes.map Note.tiedTo) =
      some [some 1, some 3, some 4, none, none] := by decide +kernel
  obtain ⟨loaded, read, tied⟩ := Option.map_eq_some_iff.mp links
  have read := except_eq_ok_of_toOption read
  obtain ⟨-, -, ties⟩ := score_ties 6 tiedChord _ _ (except_eq_ok_getD otherwise default) known
  exact ⟨otherwise, known, loaded, read, tied, ties loaded read⟩

/-- A note that ends a tie which nothing begins, and that is too long to be written. -/
def overlongEnd : Value := .object [("items", .array [
  .object [("type", .string "note"), ("duration", .string "1e5000"), ("tie", .string "end")]])]

theorem score_overlongEnd :
    (score 6 (withoutTies overlongEnd)).isOk = true ∧
    markings? overlongEnd = some [⟨(.c, 0), .stop⟩] ∧ ¬ Matched [⟨(.c, 0), .stop⟩] ∧
    score 6 overlongEnd = .error (.limit .digitsWritten) := by
  refine ⟨by decide +kernel, by decide +kernel, fun matched => ?_, ?_⟩
  · obtain ⟨start, -, nearest, -⟩ := matched 0 _ rfl rfl
    exact absurd nearest.earlier (Nat.not_lt_zero start)
  · have limited : (match score 6 overlongEnd with
        | .error (.limit limit) => limit == .digitsWritten
        | _ => false) = true := by decide +kernel
    split at limited
    next limit cut => rw [cut, beq_iff_eq.mp limited]
    next => cases limited

end Document

end ScorePlayback
