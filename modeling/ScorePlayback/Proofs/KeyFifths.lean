import Mathlib.Data.List.Induction
import ScorePlayback.Proofs.RunningKey

/-! Keys by the number of their sharps or flats. A number says of every place of the octave how it
is altered, so there is one key to each number from seven flats to seven sharps, and to no other. -/

namespace ScorePlayback.KeySignature

/-- The accidentals of a key of so many sharps, or of so many flats below zero. -/
structure AltersBy (key : KeySignature) (fifths : Int) : Prop where
  sharps : ∀ letter ∈ sharpOrder.take fifths.toNat,
    key.accidentalAt letter.position = some .sharp
  flats : ∀ letter ∈ flatOrder.take (-fifths).toNat,
    key.accidentalAt letter.position = some .flat
  others : ∀ position,
    position ∉ (sharpOrder.take fifths.toNat).map Letter.position →
    position ∉ (flatOrder.take (-fifths).toNat).map Letter.position →
    key.accidentalAt position = some .natural

private theorem ext_accidentalAt {key other : KeySignature}
    (same : ∀ position, key.accidentalAt position = other.accidentalAt position) : key = other := by
  obtain ⟨accidentals⟩ := key
  obtain ⟨others⟩ := other
  congr 1
  apply Vector.ext
  intro index inside
  exact same ⟨index, inside⟩

/-- A number of sharps or flats leaves nothing about a key open. -/
theorem AltersBy.unique {key other : KeySignature} {fifths : Int} (alters : key.AltersBy fifths)
    (alike : other.AltersBy fifths) : key = other := by
  apply ext_accidentalAt
  intro position
  by_cases sharp : position ∈ (sharpOrder.take fifths.toNat).map Letter.position
  · obtain ⟨letter, member, rfl⟩ := List.mem_map.mp sharp
    rw [alters.sharps letter member, alike.sharps letter member]
  · by_cases flat : position ∈ (flatOrder.take (-fifths).toNat).map Letter.position
    · obtain ⟨letter, member, rfl⟩ := List.mem_map.mp flat
      rw [alters.flats letter member, alike.flats letter member]
    · rw [alters.others position sharp flat, alike.others position sharp flat]

theorem alter_concat (accidental : Accidental) (letters : List Letter) (letter : Letter) :
    alter accidental (letters ++ [letter]) =
      (alter accidental letters).setAccidental letter.position accidental := by
  rw [alter, List.foldl_append]
  rfl

theorem accidentalAt_alter_of_mem {letters : List Letter} {letter : Letter}
    (accidental : Accidental) (member : letter ∈ letters) :
    (alter accidental letters).accidentalAt letter.position = some accidental := by
  induction letters using List.reverseRecOn with
  | nil => cases member
  | append_singleton front last ih =>
    rw [alter_concat, accidentalAt_setAccidental]
    split
    next => rfl
    next apart =>
      rcases List.mem_append.mp member with earlier | here
      · exact ih earlier
      · exact absurd (congrArg _ (List.mem_singleton.mp here).symm) apart

theorem accidentalAt_alter_of_not_mem {letters : List Letter} {position : PitchPosition}
    (accidental : Accidental) (absent : position ∉ letters.map Letter.position) :
    (alter accidental letters).accidentalAt position = some .natural := by
  induction letters using List.reverseRecOn with
  | nil => simp [alter, plain, accidentalAt]
  | append_singleton front last ih =>
    rw [List.map_append, List.mem_append, not_or] at absent
    have apart : last.position ≠ position := fun same =>
      absent.2 (List.mem_singleton.mpr same.symm)
    rw [alter_concat, accidentalAt_setAccidental, if_neg apart]
    exact ih absent.1

private theorem altersBy_of_sharps {fifths : Int} (sharp : 0 < fifths) :
    (alter .sharp (sharpOrder.take fifths.toNat)).AltersBy fifths := by
  have none : (-fifths).toNat = 0 := by omega
  constructor
  · intro letter member
    exact accidentalAt_alter_of_mem _ member
  · rw [none]
    exact nofun
  · intro position apart _
    exact accidentalAt_alter_of_not_mem _ apart

private theorem altersBy_of_flats {fifths : Int} (flat : ¬ 0 < fifths) :
    (alter .flat (flatOrder.take (-fifths).toNat)).AltersBy fifths := by
  have none : fifths.toNat = 0 := by omega
  constructor
  · rw [none]
    exact nofun
  · intro letter member
    exact accidentalAt_alter_of_mem _ member
  · intro position _ apart
    exact accidentalAt_alter_of_not_mem _ apart

theorem exists_ofFifths {fifths : Int} (inside : -7 ≤ fifths ∧ fifths ≤ 7) :
    ∃ key, ofFifths fifths = .ok key ∧ key.AltersBy fifths := by
  rw [ofFifths, if_pos inside]
  refine ⟨_, rfl, ?_⟩
  split
  next sharp => exact altersBy_of_sharps sharp
  next flat => exact altersBy_of_flats flat

theorem ofFifths_eq_ok_iff {fifths : Int} {key : KeySignature} :
    ofFifths fifths = .ok key ↔ (-7 ≤ fifths ∧ fifths ≤ 7) ∧ key.AltersBy fifths := by
  constructor
  · intro made
    by_cases inside : -7 ≤ fifths ∧ fifths ≤ 7
    · obtain ⟨built, found, alters⟩ := exists_ofFifths inside
      cases made.symm.trans found
      exact ⟨inside, alters⟩
    · rw [ofFifths, if_neg inside] at made
      cases made
  · rintro ⟨inside, alters⟩
    obtain ⟨built, found, alike⟩ := exists_ofFifths inside
    rw [found, alike.unique alters]

theorem ofFifths_eq_error_iff {fifths : Int} {fault : NotationError} :
    ofFifths fifths = .error fault ↔ ¬ (-7 ≤ fifths ∧ fifths ≤ 7) ∧ fault = .fifths fifths := by
  by_cases inside : -7 ≤ fifths ∧ fifths ≤ 7
  · obtain ⟨key, made, -⟩ := exists_ofFifths inside
    rw [made]
    exact ⟨nofun, fun refused => absurd inside refused.1⟩
  · rw [ofFifths, if_neg inside, Except.error.injEq, eq_comm]
    exact (and_iff_right inside).symm

end ScorePlayback.KeySignature
