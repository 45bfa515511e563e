import ScorePlayback.Proofs.KeyFifths
import ScorePlayback.Proofs.Numerals

/-! The names of keys. A name spells a tonic, perhaps a sharp or a flat, and a mode, and these come
to a number of sharps or flats. Nothing else of a name counts, and a name that spells no key, or one
of too many sharps or flats, is refused. -/

namespace ScorePlayback

namespace Text

private theorem CaseRun.partner?_eq_some {run : CaseRun} {point other : Nat}
    (found : run.partner? point = some other) :
    run.first ≤ point ∧ point ≤ run.last ∧ other = (point + run.shift).toNat := by
  unfold partner? at found
  split at found
  next inside =>
    simp only [Bool.and_eq_true, decide_eq_true_eq] at inside
    exact ⟨inside.1.1, inside.1.2, (Option.some.inj found).symm⟩
  next => cases found

private theorem toNat_ofNat_of_pos {point : Nat} (positive : 0 < (Char.ofNat point).toNat) :
    (Char.ofNat point).toNat = point := by
  by_cases valid : point.isValidChar
  · have built : Char.ofNat point = Char.ofNatAux point valid := dif_pos valid
    rw [built]
    rfl
  · have nothing : (Char.ofNat point).toNat = 0 := congrArg Char.toNat (dif_neg valid)
    omega

/-- One of the first capitals is raised from itself or from its small letter, and from no letter of
another script. -/
theorem eq_or_toNat_eq_of_upperChar {c capital : Char} (low : 0x41 ≤ capital.toNat)
    (high : capital.toNat ≤ 0x47) (raised : upperChar c = [capital]) :
    c = capital ∨ c.toNat = capital.toNat + 32 := by
  have several : ∀ entry ∈ upperExpansions, 1 < entry.2.length := by decide +kernel
  -- Only the run of the small letters of the alphabet leads to where the first capitals are.
  have apart : ∀ run ∈ upperRuns, run.shift = -32 ∨ run.last + run.shift < 0x41 ∨
      0x47 < run.first + run.shift := by decide +kernel
  unfold upperChar at raised
  split at raised
  next points expanded =>
    obtain ⟨before, after, table, -⟩ := List.lookup_eq_some_iff.mp expanded
    have long : 1 < points.length := several (c.toNat, points) (by simp [table])
    have single := congrArg List.length raised
    rw [List.length_map, List.length_singleton] at single
    omega
  next =>
    cases partner : partnerIn? upperRuns c.toNat with
    | none =>
      rw [partner] at raised
      exact .inl (List.singleton_inj.mp raised)
    | some point =>
      rw [partner] at raised
      obtain rfl : Char.ofNat point = capital := List.singleton_inj.mp raised
      have same := toNat_ofNat_of_pos (Nat.lt_of_lt_of_le (by decide) low)
      obtain ⟨run, member, found⟩ := List.exists_of_findSome?_eq_some partner
      obtain ⟨first, last, shifted⟩ := CaseRun.partner?_eq_some found
      have := apart run member
      omega

end Text

theorem LooseText.eq_ofString_of_string? {text : LooseText} {word : String}
    (whole : text.string? = some word) : text = .ofString word := by
  obtain ⟨chars, read, rfl⟩ := Option.map_eq_some_iff.mp whole
  rw [eq_ofChars_of_chars? read, ofString, String.toList_ofList]

namespace Letter
open Text

def capital : Letter → Char
  | c => 'C'
  | d => 'D'
  | e => 'E'
  | f => 'F'
  | g => 'G'
  | a => 'A'
  | b => 'B'

def small (letter : Letter) : Char := letter.capital.toLower

theorem capital_bounds (letter : Letter) :
    0x41 ≤ letter.capital.toNat ∧ letter.capital.toNat ≤ 0x47 := by
  cases letter <;> decide

private theorem toNat_small (letter : Letter) : letter.small.toNat = letter.capital.toNat + 32 := by
  cases letter <;> rfl

theorem name_eq (letter : Letter) : letter.name = .ofList [letter.capital] := by
  cases letter <;> rfl

private theorem upperChar_of_ofText? {c : Char} {letter : Letter}
    (read : ofText? ⟨[.char c]⟩ = some letter) : upperChar c = [letter.capital] := by
  have raised : upper ⟨[.char c]⟩ = .ofChars (upperChar c) := by
    rw [upper, mapChars, List.flatMap_singleton]
    rfl
  rw [ofText?, raised, LooseText.string?, LooseText.chars?_ofChars, Option.map_some,
    Option.bind_some, ofName?] at read
  have named := List.find?_some read
  simp only [beq_iff_eq, name_eq] at named
  exact (String.ofList_inj.mp named).symm

/-- A single unit is read as a letter only if it is the letter itself, in either case. -/
theorem ofText?_single_iff {unit : TextUnit} {letter : Letter} :
    ofText? ⟨[unit]⟩ = some letter ↔ unit = .char letter.capital ∨ unit = .char letter.small := by
  constructor
  · intro read
    cases unit with
    | half => cases read
    | char c =>
      obtain ⟨low, high⟩ := letter.capital_bounds
      rcases eq_or_toNat_eq_of_upperChar low high (upperChar_of_ofText? read) with same | lowered
      · exact .inl (congrArg _ same)
      · rw [← toNat_small] at lowered
        exact .inr (congrArg _ (Char.toNat_inj.mp lowered))
  · rintro (rfl | rfl)
    · cases letter <;> decide
    · cases letter <;> decide

end Letter

/-- What stands behind the tonic in the name of a key: a sharp, a flat or neither. -/
inductive Alteration
  | none
  | sharp
  | flat

namespace Alteration
open Text

def units : Alteration → List TextUnit
  | none => []
  | sharp => [.char '#']
  | flat => [.char 'b']

def fifths : Alteration → Int
  | none => 0
  | sharp => 7
  | flat => -7

end Alteration

/-- The modes that a key may be named by. -/
inductive Mode
  | major
  | ionian
  | minor
  | aeolian
  | dorian
  | phrygian
  | lydian
  | mixolydian
  | locrian

namespace Mode

def all : List Mode :=
  [major, ionian, minor, aeolian, dorian, phrygian, lydian, mixolydian, locrian]

/-- The letters that a name of the mode begins with. -/
def stem : Mode → String
  | major => "maj"
  | ionian => "ion"
  | minor => "min"
  | aeolian => "aeo"
  | dorian => "dor"
  | phrygian => "phr"
  | lydian => "lyd"
  | mixolydian => "mix"
  | locrian => "loc"

/-- How far the mode lies from the major one on the circle of fifths. -/
def fifths : Mode → Int
  | major => 0
  | ionian => 0
  | minor => -3
  | aeolian => -3
  | dorian => -2
  | phrygian => -4
  | lydian => 1
  | mixolydian => -1
  | locrian => -5

/-- What a text in small letters says of the mode: nothing for the major one, a single letter for
the minor one, or any text that begins with a stem. -/
inductive Spells : LooseText → Int → Prop
  | absent : Spells ⟨[]⟩ 0
  | letter : Spells "m" (-3)
  | stem (mode : Mode) (more : LooseText) : Spells (.ofString mode.stem ++ more) mode.fifths

theorem length_stem (mode : Mode) : mode.stem.toList.length = 3 := by
  cases mode <;> rfl

/-- No mode begins like an alteration. -/
theorem Spells.head?_ne {text : LooseText} {fifths : Int} (spells : Spells text fifths) {c : Char}
    (altering : c = '#' ∨ c = 'b') : text.units.head? ≠ some (.char c) := by
  cases spells with
  | absent => nofun
  | letter => rcases altering with rfl | rfl <;> decide
  | stem mode more =>
    have first : (LooseText.ofString mode.stem ++ more).units.head? =
        (LooseText.ofString mode.stem).units.head? := by
      cases mode <;> rfl
    rw [first]
    rcases altering with rfl | rfl <;> cases mode <;> decide

end Mode

namespace KeySignature
open Text

private theorem mem_modes_cases : ∀ entry ∈ modes, entry = ("", 0) ∨ entry = ("m", -3) ∨
    ∃ mode ∈ Mode.all, entry = (mode.stem, mode.fifths) := by
  decide

private theorem lookup_stem (mode : Mode) : modes.lookup mode.stem = some mode.fifths := by
  cases mode <;> decide

theorem eq_of_take {units short : List TextUnit} {count : Nat} (taken : units.take count = short)
    (less : short.length < count) : units = short := by
  have length := congrArg List.length taken
  rw [List.length_take] at length
  rw [← taken, List.take_of_length_le (by omega)]

theorem modeFifths?_eq_some_iff {text : LooseText} {fifths : Int} :
    modeFifths? text = some fifths ↔ Mode.Spells text fifths := by
  constructor
  · intro read
    obtain ⟨word, whole, listed⟩ := Option.bind_eq_some_iff.mp read
    have taken : text.units.take 3 = (LooseText.ofString word).units :=
      congrArg LooseText.units (LooseText.eq_ofString_of_string? whole)
    obtain ⟨before, after, table, -⟩ := List.lookup_eq_some_iff.mp listed
    have member : (word, fifths) ∈ modes := by simp [table]
    rcases mem_modes_cases _ member with entry | entry | ⟨mode, -, entry⟩
    · cases entry
      rw [show text = ⟨[]⟩ from congrArg LooseText.mk (eq_of_take taken (by decide))]
      exact .absent
    · cases entry
      rw [show text = "m" from congrArg LooseText.mk (eq_of_take taken (by decide))]
      exact .letter
    · cases entry
      have split : text = .ofString mode.stem ++ ⟨text.units.drop 3⟩ := by
        refine congrArg LooseText.mk ?_
        rw [← taken, List.take_append_drop]
      rw [split]
      exact .stem mode _
  · intro spells
    cases spells with
    | absent => decide
    | letter => decide
    | stem mode more =>
      have taken : (LooseText.ofString mode.stem ++ more).units.take 3 =
          (LooseText.ofString mode.stem).units := by
        apply List.take_left'
        simp [LooseText.ofString, LooseText.ofChars, mode.length_stem]
      rw [modeFifths?, taken, LooseText.string?_ofString, Option.bind_some, lookup_stem]

/-- What the name of a key comes to on the circle of fifths: a tonic in either case, a sharp or a
flat or neither, and a mode. Blanks may stand around the name and around the mode. -/
inductive Spells (name : LooseText) : Int → Prop
  | intro {initial : Char} {rest : LooseText} {distance : Int} (tonic : Letter)
      (alteration : Alteration) (written : initial = tonic.capital ∨ initial = tonic.small)
      (split : strip name = ⟨.char initial :: (alteration.units ++ rest.units)⟩)
      (mode : Mode.Spells (lower (strip rest)) distance) :
      Spells name (tonicFifths tonic + alteration.fifths + distance)

theorem splitAlteration_cases (units : List TextUnit) : ∃ (alteration : Alteration) (rest : _),
    splitAlteration units = (alteration.fifths, rest) ∧ units = alteration.units ++ rest := by
  unfold splitAlteration
  split
  next rest => exact ⟨.sharp, rest, rfl, rfl⟩
  next rest => exact ⟨.flat, rest, rfl, rfl⟩
  next => exact ⟨.none, units, rfl, rfl⟩

theorem head?_lower_strip {c : Char} (altering : c = '#' ∨ c = 'b') (rest : List TextUnit) :
    (lower (strip ⟨.char c :: rest⟩)).units.head? = some (.char c) := by
  have dark : TextUnit.isChar isBlank (.char c) = false := by
    rcases altering with rfl | rfl <;> decide
  obtain ⟨more, trimmed⟩ := exists_trim_cons dark rest
  have same : lowerUnit [] more (.char c) = [.char c] := by
    rcases altering with rfl | rfl <;> rfl
  rw [strip, trimmed, lower, lowerAfter, same]
  rfl

/-- The sharp or flat of a name is split off where it is spelled, and a mode is never taken for
one. -/
private theorem splitAlteration_append {rest : LooseText} {distance : Int} (alteration : Alteration)
    (mode : Mode.Spells (lower (strip rest)) distance) :
    splitAlteration (alteration.units ++ rest.units) = (alteration.fifths, rest.units) := by
  cases alteration with
  | sharp => rfl
  | flat => rfl
  | none =>
    obtain ⟨units⟩ := rest
    change splitAlteration units = (0, units)
    unfold splitAlteration
    split
    -- A rest that begins with a sign still begins with it when it is stripped and lowered.
    next more => exact absurd (head?_lower_strip (.inl rfl) more) (mode.head?_ne (.inl rfl))
    next more => exact absurd (head?_lower_strip (.inr rfl) more) (mode.head?_ne (.inr rfl))
    next => rfl

theorem ofName_of_spells {name : LooseText} {fifths : Int} (spells : Spells name fifths) :
    ofName name = ofFifths fifths := by
  cases spells with
  | @intro initial rest distance tonic alteration written split mode =>
    have read : Letter.ofText? ⟨[.char initial]⟩ = some tonic :=
      Letter.ofText?_single_iff.mpr (written.imp (congrArg _) (congrArg _))
    simp only [ofName, split, read, splitAlteration_append alteration mode,
      modeFifths?_eq_some_iff.mpr mode]

theorem ofName_cases (name : LooseText) : (∃ fifths, Spells name fifths) ∨
    ofName name = .error (.tonic name) ∨ ∃ rest, ofName name = .error (.mode rest name) := by
  unfold ofName
  split
  next => exact .inr (.inl rfl)
  next first rest split =>
    split
    next => exact .inr (.inl rfl)
    next tonic read =>
      obtain ⟨alteration, more, found, rfl⟩ := splitAlteration_cases rest
      simp only [found]
      split
      next => exact .inr (.inr ⟨_, rfl⟩)
      next distance mode =>
        have letter := Letter.ofText?_single_iff.mp read
        cases first with
        | half => rcases letter with same | same <;> cases same
        | char initial =>
          have written : initial = tonic.capital ∨ initial = tonic.small :=
            letter.imp TextUnit.char.inj TextUnit.char.inj
          have name_eq : strip name = ⟨.char initial :: (alteration.units ++ more)⟩ :=
            congrArg LooseText.mk split
          exact .inl ⟨_, .intro tonic alteration written name_eq (modeFifths?_eq_some_iff.mp mode)⟩

private theorem ofName_eq_ok_iff {name : LooseText} {key : KeySignature} :
    ofName name = .ok key ↔
      ∃ fifths, Spells name fifths ∧ (-7 ≤ fifths ∧ fifths ≤ 7) ∧ key.AltersBy fifths := by
  constructor
  · intro made
    rcases ofName_cases name with ⟨fifths, spells⟩ | tonic | ⟨rest, mode⟩
    · rw [ofName_of_spells spells] at made
      exact ⟨fifths, spells, ofFifths_eq_ok_iff.mp made⟩
    · cases tonic.symm.trans made
    · cases mode.symm.trans made
  · rintro ⟨fifths, spells, inside⟩
    rw [ofName_of_spells spells]
    exact ofFifths_eq_ok_iff.mpr inside

private theorem ofName_fifths_iff {name : LooseText} {fifths : Int} :
    ofName name = .error (.fifths fifths) ↔
      Spells name fifths ∧ ¬ (-7 ≤ fifths ∧ fifths ≤ 7) := by
  constructor
  · intro refused
    rcases ofName_cases name with ⟨spelled, spells⟩ | tonic | ⟨rest, mode⟩
    · rw [ofName_of_spells spells] at refused
      obtain ⟨outside, same⟩ := ofFifths_eq_error_iff.mp refused
      cases same
      exact ⟨spells, outside⟩
    · cases tonic.symm.trans refused
    · cases mode.symm.trans refused
  · rintro ⟨spells, outside⟩
    rw [ofName_of_spells spells]
    exact ofFifths_eq_error_iff.mpr ⟨outside, rfl⟩

private theorem ofName_unread_iff {name : LooseText} :
    (ofName name = .error (.tonic name) ∨ ∃ rest, ofName name = .error (.mode rest name)) ↔
      ¬ ∃ fifths, Spells name fifths := by
  constructor
  · rintro unread ⟨fifths, spells⟩
    rw [ofName_of_spells spells] at unread
    rcases unread with tonic | ⟨rest, mode⟩
    · cases (ofFifths_eq_error_iff.mp tonic).2
    · cases (ofFifths_eq_error_iff.mp mode).2
  · exact (ofName_cases name).resolve_left

/-- A name makes a key exactly if it spells one of no more than seven sharps or flats, and nothing
but their number decides which key. A name of more is refused for their number, and a name that
spells nothing for its tonic or its mode. -/
theorem ofName_spelled (name : LooseText) :
    (∀ key, ofName name = .ok key ↔
      ∃ fifths, Spells name fifths ∧ (-7 ≤ fifths ∧ fifths ≤ 7) ∧ key.AltersBy fifths) ∧
    (∀ other fifths, Spells name fifths → Spells other fifths → ofName name = ofName other) ∧
    (∀ fifths, ofName name = .error (.fifths fifths) ↔
      Spells name fifths ∧ ¬ (-7 ≤ fifths ∧ fifths ≤ 7)) ∧
    ((ofName name = .error (.tonic name) ∨ ∃ rest, ofName name = .error (.mode rest name)) ↔
      ¬ ∃ fifths, Spells name fifths) := by
  refine ⟨fun key => ofName_eq_ok_iff, ?_, fun fifths => ofName_fifths_iff, ofName_unread_iff⟩
  intro other fifths spells alike
  rw [ofName_of_spells spells, ofName_of_spells alike]

/-- The second `b` of this name is the flat, and the blanks do not count. -/
theorem spells_flatMinor : Spells "\u3000bb MINor\n" (-5) := by
  have split : strip "\u3000bb MINor\n" =
      ⟨.char 'b' :: (Alteration.flat.units ++ (LooseText.ofString " MINor").units)⟩ := by decide
  have lowered : lower (strip " MINor") = .ofString Mode.minor.stem ++ "or" := by decide
  have mode : Mode.Spells (lower (strip " MINor")) (-3) := by
    rw [lowered]
    exact .stem .minor "or"
  exact .intro .b .flat (.inr rfl) split mode

theorem spells_flatMajor : Spells "Db" (-5) := by
  have split : strip "Db" =
      ⟨.char 'D' :: (Alteration.flat.units ++ (LooseText.ofString "").units)⟩ := by decide
  exact .intro .d .flat (.inl rfl) split .absent

/-- B flat minor and D flat major are named in quite different ways, and they are one key. -/
theorem ofName_spelled_relatives :
    Spells "\u3000bb MINor\n" (-5) ∧ Spells "Db" (-5) ∧
      (∃ key, ofName "\u3000bb MINor\n" = .ok key ∧ key.AltersBy (-5)) ∧
      ofName "\u3000bb MINor\n" = ofName "Db" := by
  obtain ⟨keys, same, -⟩ := ofName_spelled "\u3000bb MINor\n"
  have inside : -7 ≤ (-5 : Int) ∧ (-5 : Int) ≤ 7 := by decide
  obtain ⟨key, -, alters⟩ := exists_ofFifths inside
  have made := (keys key).mpr ⟨-5, spells_flatMinor, inside, alters⟩
  have alike := same "Db" (-5) spells_flatMinor spells_flatMajor
  exact ⟨spells_flatMinor, spells_flatMajor, ⟨key, made, alters⟩, alike⟩

/-- A capital is no flat. -/
example : ofName "bB" = .error (.mode "B" "bB") := by decide

end KeySignature

end ScorePlayback
