import ScorePlayback.Document.Score
import ScorePlayback.Proofs.Timings
import ScorePlayback.Proofs.WrittenOut

/-! How many notes are heard. Without repeats every note that sounds is started once, and so is every
grace note of a note that stands alone. The grace notes in a chord are never played. -/

namespace ScorePlayback

/-- A note behind the grace notes that go with it. A tie ending is not played, and so neither are
its grace notes. -/
def Note.adorned (note : Note) : List Note := (if note.endsTie then [] else note.grace) ++ [note]

/-- The notes of an item that are written to be heard, grace notes included. -/
def Item.audible (item : Item) : List Note := (item.notes.flatMap Note.adorned).filter Note.sounds

/-- The grace notes in a chord that are written to be heard. -/
def Item.muted : Item → List Note
  | .chord together => (together.withoutTieEndings.flatMap Note.grace).filter Note.sounds
  | _ => []

namespace Score

def audible (score : Score) : List Note := score.items.flatMap Item.audible

def muted (score : Score) : List Note := score.items.flatMap Item.muted

end Score

namespace Note

theorem sounds_of_endsTie {note : Note} (ends : note.endsTie = true) : note.sounds = false := by
  rw [sounds, ends, Bool.not_true, Bool.and_false]

theorem filter_adorned {note : Note} (ends : note.endsTie = true) :
    note.adorned.filter sounds = [] := by
  have silent := Bool.eq_false_iff.mp (sounds_of_endsTie ends)
  rw [adorned, if_pos ends, List.nil_append, List.filter_cons_of_neg silent, List.filter_nil]

theorem adorned_of_played {note : Note} (played : note.endsTie = false) :
    note.adorned = note.grace ++ [note] := by
  rw [adorned, played]
  rfl

end Note

private theorem Part.sounding_singles (notes : List Note) :
    (notes.map Part.single).flatMap Part.sounding = notes.filter Note.sounds := by
  induction notes with
  | nil => rfl
  | cons note rest ih =>
    rw [List.map_cons, List.flatMap_cons, ih, List.filter_cons, sounding]
    split <;> rfl

/-- In a chord the notes themselves are heard, and their grace notes are not. -/
theorem Chord.length_audible (notes : List Note) :
    (notes.filter Note.sounds).length +
        (((notes.filter (!·.endsTie)).flatMap Note.grace).filter Note.sounds).length =
      ((notes.flatMap Note.adorned).filter Note.sounds).length := by
  induction notes with
  | nil => rfl
  | cons note rest ih =>
    rw [List.flatMap_cons, List.filter_append, List.length_append, ← ih]
    cases ends : note.endsTie with
    | true =>
      have silent := Bool.eq_false_iff.mp (Note.sounds_of_endsTie ends)
      have left : (note :: rest).filter (!·.endsTie) = rest.filter (!·.endsTie) :=
        List.filter_cons_of_neg (by simp [ends])
      rw [Note.filter_adorned ends, List.filter_cons_of_neg silent, left, List.length_nil,
        Nat.zero_add]
    | false =>
      have kept : (note :: rest).filter (!·.endsTie) = note :: rest.filter (!·.endsTie) :=
        List.filter_cons_of_pos (by simp [ends])
      rw [Note.adorned_of_played ends, kept, List.flatMap_cons,
        ← List.singleton_append, List.filter_append, List.filter_append, List.filter_append,
        List.length_append, List.length_append, List.length_append]
      omega

theorem Item.length_audible (item : Item) :
    (item.parts.flatMap Part.sounding).length + item.muted.length = item.audible.length := by
  cases item with
  | note single =>
    rw [audible, notes, List.flatMap_singleton, parts]
    cases ends : single.endsTie with
    | true =>
      rw [Note.filter_adorned ends]
      rfl
    | false =>
      rw [Note.adorned_of_played ends, ← Part.sounding_singles]
      rfl
  | chord together =>
    rw [parts, List.flatMap_singleton]
    exact Chord.length_audible together.notes
  | bar | key | tempo | absent => rfl

theorem Score.length_audible {score : Score} (plain : ∀ item ∈ score.items, item.isPlain = true) :
    (score.parts.flatMap Part.sounding).length + score.muted.length = score.audible.length := by
  rw [parts, performed_of_isPlain plain, audible, muted]
  clear plain
  induction score.items with
  | nil => rfl
  | cons item rest ih =>
    have first := item.length_audible
    simp only [List.flatMap_cons, List.flatMap_append, List.length_append]
    omega

/-! Starts counted -/

private theorem Track.length_ofKind (track : Track) (kind : EventKind) :
    (track.ofKind kind).length = (track.events.map Event.timing).countP (·.2 = kind) := by
  rw [List.countP_map, ofKind, List.countP_eq_length_filter]
  rfl

theorem Part.countP_timings (part : Part) (start stop : Int) :
    (part.timings start stop).countP (·.2 = .noteOn) = part.sounding.length := by
  cases part with
  | tempo => rfl
  | single | chord =>
    rw [timings, List.countP_append, List.countP_replicate, List.countP_replicate]
    · rfl
    · exact nofun

theorem Score.countP_timings (score : Score) (resolution tick : Int) (parts : List Part) :
    (score.timings resolution tick parts).countP (·.2 = .noteOn) =
      (parts.flatMap Part.sounding).length := by
  induction parts generalizing tick with
  | nil => rfl
  | cons part rest ih =>
    rw [timings, List.countP_append, part.countP_timings, ih, List.flatMap_cons, List.length_append]

/-- Every note that sounds in what is played is started once. -/
private theorem Converter.length_noteOns {converter : Converter} {score : Score} {track : Track}
    (converted : (converter.convert score).result = .ok track) :
    (track.ofKind .noteOn).length = (score.parts.flatMap Part.sounding).length := by
  rw [track.length_ofKind, timings_convert converted, List.countP_cons_of_neg (by decide),
    Score.countP_timings]

/-- Without repeats all notes that are written to be heard are started once, but for the grace notes
in the chords. -/
theorem Converter.noteOns_convert (converter : Converter) (score : Score) (track : Track)
    (plain : ∀ item ∈ score.items, item.isPlain = true)
    (converted : (converter.convert score).result = .ok track) :
    (track.ofKind .noteOn).length + score.muted.length = score.audible.length ∧
      ((track.ofKind .noteOn).length = score.audible.length ↔ score.muted = []) := by
  have starts := length_noteOns converted
  have balance := Score.length_audible plain
  rw [← starts] at balance
  refine ⟨balance, ?_⟩
  rw [← List.length_eq_zero_iff]
  omega

/-- A note with a grace note, as it stands in a document. -/
def Document.gracedNote : Value := .object [("type", .string "note"), ("pitch", .string "C"),
  ("grace", .array [.object [("pitch", .string "D"), ("duration", .int 24)]])]

/-- One graced note alone and another one in a chord. -/
def Document.ornaments : Value := .object [("items", .array [gracedNote,
  .object [("type", .string "chord"), ("notes", .array [gracedNote])]])]

def Score.ornaments : Score where
  items := [.note { id := 1, grace := [{ id := 0, letter := .d, duration := 24 }] },
    .chord ⟨[{ id := 3, grace := [{ id := 2, letter := .d, duration := 24 }] }]⟩]

theorem Converter.noteOns_convert_ornaments :
    ∃ track, Document.score 6 Document.ornaments = .ok .ornaments ∧
      (Converter.usual.convert .ornaments).result = .ok track ∧
      (track.ofKind .noteOn).length + 1 = 4 := by
  have plain : ∀ item ∈ Score.ornaments.items, item.isPlain = true := by decide
  have succeeds : (Converter.usual.convert .ornaments).result.isOk = true := by decide +kernel
  have converted := except_eq_ok_getD succeeds ⟨0, []⟩
  exact ⟨_, rfl, converted, (noteOns_convert .usual .ornaments _ plain converted).1⟩

/-- A grace note in a chord is lost, although it is read, and no repeat skips it. -/
theorem Converter.noteOns_ornaments :
    ¬ ∀ (room : Nat) (document : Value) (score : Score) (converter : Converter) (track : Track),
      Document.score room document = .ok score → (∀ item ∈ score.items, item.isPlain = true) →
      (converter.convert score).result = .ok track →
      (track.ofKind .noteOn).length = score.audible.length := by
  intro claim
  have started : ((Converter.usual.convert .ornaments).result.toOption.map fun track =>
      (track.ofKind .noteOn).length) = some 3 := by decide +kernel
  obtain ⟨track, converted, three⟩ := Option.map_eq_some_iff.mp started
  have four := claim 6 Document.ornaments .ornaments .usual track rfl (by decide)
    (except_eq_ok_of_toOption converted)
  rw [three] at four
  revert four
  decide

end ScorePlayback
