import ScorePlayback.Proofs.StatedTempo
import ScorePlayback.Proofs.Timeline
import ScorePlayback.Proofs.WrittenOut

/-! The error that a conversion ends with is that of its instrument or else of the first event without
a message. A note only makes the event invalid; a tempo may also leave the range of the arithmetic.
This, and a bank that fails in another way than it says, are what a conversion does not declare. A
tempo of ordinary size never leaves the range. -/

namespace ScorePlayback

/-- What a conversion is said to end with: a track, an instrument that is not to be had, or an event
that is invalid. -/
inductive Conversion.EndsAsDeclared (conversion : Conversion) : Prop
  | track {track : Track} (converted : conversion.result = .ok track)
  | unavailable {fault : InstrumentFault}
      (refused : conversion.result = .error (.instrumentUnavailable fault))
  | invalid {fault : EventFault} (aborted : conversion.result = .error (.invalidEvent fault))

theorem Conversion.not_endsAsDeclared {conversion : Conversion} {fault : ArithmeticFault}
    (escaped : conversion.result = .error (.arithmetic fault)) : ¬ conversion.EndsAsDeclared := by
  intro declared
  cases declared with
  | track converted => cases escaped.symm.trans converted
  | unavailable refused => cases escaped.symm.trans refused
  | invalid aborted => cases escaped.symm.trans aborted

namespace Rendering

theorem fault_append (first second : Rendering) :
    (first ++ second).fault = first.fault.or second.fault := by
  cases failed : first.fault with
  | some fault => rw [append_eq_of_fault failed, failed, Option.some_or]
  | none => rw [append_eq_of_none failed, Option.none_or]

theorem fault_join (parts : List Rendering) :
    (join parts).fault = parts.findSome? Rendering.fault := by
  induction parts with
  | nil => rfl
  | cons first rest ih =>
    rw [join, fault_append, ih, List.findSome?_cons]
    cases first.fault <;> rfl

/-- Whatever fault there is comes from a message. -/
def Refuses (rendering : Rendering) : Prop :=
  ∀ fault, rendering.fault = some fault → ∃ refused, fault = .message refused

namespace Refuses

theorem single (tick : Int) (kind : EventKind) (message : Except MessageFault Message) :
    Refuses (.single tick kind (message.mapError .message)) := by
  intro fault failed
  cases message with
  | ok => cases failed
  | error refused =>
    cases failed
    exact ⟨refused, rfl⟩

theorem append {first second : Rendering} (start : first.Refuses) (rest : second.Refuses) :
    (first ++ second).Refuses := by
  intro fault failed
  rw [fault_append, Option.or_eq_some_iff] at failed
  rcases failed with early | ⟨-, late⟩
  · exact start fault early
  · exact rest fault late

theorem join {parts : List α} {render : α → Rendering} (each : ∀ part, (render part).Refuses) :
    (Rendering.join (parts.map render)).Refuses := by
  induction parts with
  | nil => exact nofun
  | cons part rest ih => exact (each part).append ih

end Refuses

end Rendering

namespace Encoding
variable (encoding : Encoding)

private theorem renderSound_refuses (tick duration : Int) (notes : List Note)
    (key : Option KeySignature) : (encoding.sounds.renderSound tick duration notes key).Refuses := by
  apply Rendering.Refuses.append
  · exact Rendering.Refuses.join fun note => Rendering.Refuses.single tick _ _
  · exact Rendering.Refuses.join fun note => Rendering.Refuses.single (tick + duration) _ _

/-- Only a tempo leaves the range of the arithmetic. -/
theorem fault_renderCue_eq_arithmetic {cue : Cue} {fault : ArithmeticFault} :
    (encoding.sounds.renderCue cue).fault = some (.arithmetic fault) ↔
      ∃ tick tempo, cue = .tempo tick tempo ∧ tempo.microsecondsPerQuarter = .error fault := by
  constructor
  · intro failed
    cases cue with
    | tempo tick tempo =>
      refine ⟨tick, tempo, rfl, ?_⟩
      simp only [SoundEncoding.renderCue, renderTempo_sounds, Encoding.tempo] at failed
      cases computed : tempo.microsecondsPerQuarter with
      | error other =>
        rw [computed] at failed
        cases failed
        rfl
      | ok value =>
        rw [computed] at failed
        obtain ⟨refused, same⟩ := Rendering.Refuses.single tick .tempo _ _ failed
        cases same
    | sound tick duration notes key =>
      obtain ⟨refused, same⟩ := encoding.renderSound_refuses tick duration notes key _ failed
      cases same
    | remark => cases failed
  · rintro ⟨tick, tempo, rfl, computed⟩
    simp only [SoundEncoding.renderCue, renderTempo_sounds, Encoding.tempo, computed]
    rfl

end Encoding

/-- The fault of a rendering is that of the first cue that has one. -/
theorem SoundEncoding.fault_render_eq_some (encoding : SoundEncoding) {cues : List Cue}
    {fault : EventFault} :
    (encoding.render cues).fault = some fault ↔
      ∃ before cue after, cues = before ++ cue :: after ∧
        (encoding.render before).fault = none ∧ (encoding.renderCue cue).fault = some fault := by
  simp only [render, Rendering.fault_join, List.findSome?_map, List.findSome?_eq_some_iff,
    List.findSome?_eq_none_iff]
  constructor
  · rintro ⟨before, cue, after, split, failed, clean⟩
    exact ⟨before, cue, after, split, clean, failed⟩
  · rintro ⟨before, cue, after, split, clean, failed⟩
    exact ⟨before, cue, after, split, failed, clean⟩

/-- The first event without a message is a tempo that leaves the range of the arithmetic. -/
def Converter.Overreaches (converter : Converter) (score : Score) (fault : ArithmeticFault) : Prop :=
  ∃ instrument records before tick tempo after,
    converter.loadInstrument = .ok (instrument, records) ∧
    score.script converter.resolution = before ++ .tempo tick tempo :: after ∧
    (converter.sounds.renderProgram 0 instrument ++ converter.sounds.render before).fault =
      none ∧
    tempo.microsecondsPerQuarter = .error fault

namespace Converter
variable {converter : Converter} {score : Score}

private theorem fault_rendering_eq_arithmetic {instrument : Instrument} {fault : ArithmeticFault} :
    (converter.rendering instrument score).fault = some (.arithmetic fault) ↔
      ∃ before tick tempo after,
        score.script converter.resolution = before ++ .tempo tick tempo :: after ∧
        (converter.sounds.renderProgram 0 instrument ++ converter.sounds.render before).fault =
          none ∧
        tempo.microsecondsPerQuarter = .error fault := by
  rw [rendering_eq, Rendering.fault_append, Option.or_eq_some_iff]
  constructor
  · rintro (early | ⟨sound, late⟩)
    · obtain ⟨refused, same⟩ := Rendering.Refuses.single 0 .programChange _ _ early
      cases same
    · obtain ⟨before, cue, after, split, clean, failed⟩ :=
        converter.sounds.fault_render_eq_some.mp late
      obtain ⟨tick, tempo, rfl, computed⟩ :=
        converter.encoding.fault_renderCue_eq_arithmetic.mp failed
      refine ⟨before, tick, tempo, after, split, ?_, computed⟩
      rw [Rendering.fault_append, sound, clean, Option.none_or]
  · rintro ⟨before, tick, tempo, after, split, clean, computed⟩
    rw [Rendering.fault_append, Option.or_eq_none_iff] at clean
    have failed :=
      converter.encoding.fault_renderCue_eq_arithmetic.mpr ⟨tick, tempo, rfl, computed⟩
    exact .inr ⟨clean.1,
      converter.sounds.fault_render_eq_some.mpr ⟨before, _, after, split, clean.2, failed⟩⟩

/-- The rendering of a loaded instrument shows whether the arithmetic is left. -/
theorem overreaches_iff {instrument : Instrument} {records : List Log.Record}
    {fault : ArithmeticFault} (loaded : converter.loadInstrument = .ok (instrument, records)) :
    converter.Overreaches score fault ↔
      (converter.rendering instrument score).fault = some (.arithmetic fault) := by
  rw [fault_rendering_eq_arithmetic]
  constructor
  · rintro ⟨other, others, before, tick, tempo, after, loading, rest⟩
    cases loaded.symm.trans loading
    exact ⟨before, tick, tempo, after, rest⟩
  · rintro ⟨before, tick, tempo, after, rest⟩
    exact ⟨instrument, records, before, tick, tempo, after, loaded, rest⟩

end Converter

namespace Bank

/-- The bank loads an instrument, or says that it is not to be had. -/
def LoadsAsDeclared (bank : Bank) (instrument : Instrument) : Prop :=
  ∀ fault, bank.load instrument = .error fault → ∃ refused, fault = .unavailable refused

/-- General MIDI has no program number outside its range, and can say so unless the number is too
long to be written. -/
theorem loadsAsDeclared_generalMidi {instrument : Instrument} {number : Int}
    (numbered : instrument.program = .int number) :
    generalMidi.LoadsAsDeclared instrument ↔ isWritable number = true := by
  simp only [LoadsAsDeclared, generalMidi, Instrument.melodicProgram, numbered]
  split
  next inside =>
    have small : number.natAbs < Nat.pow 10 3 := by change number.natAbs < 1000; omega
    exact ⟨fun _ => isWritable_of_lt (by decide) small, fun _ => nofun⟩
  next outside =>
    unfold writeWhole
    split
    next writable =>
      refine ⟨fun _ => writable, fun _ fault refused => ?_⟩
      cases refused
      exact ⟨_, rfl⟩
    next overlong =>
      refine ⟨fun declared => ?_, fun writable => absurd writable overlong⟩
      obtain ⟨refused, same⟩ := declared _ rfl
      cases same

end Bank

/-- The instrument of a converter is loaded, or it is not to be had. -/
def Converter.LoadsAsDeclared (converter : Converter) : Prop :=
  ∀ error, converter.loadInstrument = .error error → ∃ fault, error = .instrumentUnavailable fault

namespace Converter
variable {converter : Converter}

theorem loadInstrument_of_some {instrument : Instrument}
    (chosen : converter.instrument.or converter.bank.available.head? = some instrument) :
    converter.loadInstrument = (converter.bank.load instrument).mapError .ofLoading := by
  rcases Option.or_eq_some_iff.mp chosen with given | ⟨absent, first⟩
  · simp only [loadInstrument, given, Option.elim_some, bind, Except.bind]
  · obtain ⟨rest, offered⟩ := List.head?_eq_some_iff.mp first
    simp only [loadInstrument, absent, Option.elim_none, Bank.default?, offered, Except.mapError,
      bind, Except.bind]

theorem loadInstrument_of_none
    (missing : converter.instrument.or converter.bank.available.head? = none) :
    converter.loadInstrument = .error (.instrumentUnavailable .emptyBank) := by
  obtain ⟨absent, empty⟩ := Option.or_eq_none_iff.mp missing
  simp only [loadInstrument, absent, Option.elim_none, Bank.default?,
    List.head?_eq_none_iff.mp empty, Except.mapError, bind, Except.bind]

/-- No event has been built yet when the instrument is loaded. -/
theorem loadInstrument_ne_invalidEvent (fault : EventFault) :
    converter.loadInstrument ≠ .error (.invalidEvent fault) := by
  cases chosen : converter.instrument.or converter.bank.available.head? with
  | none =>
    rw [loadInstrument_of_none chosen]
    nofun
  | some instrument =>
    rw [loadInstrument_of_some chosen]
    rcases converter.bank.load instrument with (_ | _ | _) | _ <;> nofun

theorem loadsAsDeclared_iff {instrument : Instrument}
    (chosen : converter.instrument.or converter.bank.available.head? = some instrument) :
    converter.LoadsAsDeclared ↔ converter.bank.LoadsAsDeclared instrument := by
  rw [LoadsAsDeclared, loadInstrument_of_some chosen, Bank.LoadsAsDeclared]
  cases converter.bank.load instrument with
  | ok => exact ⟨fun _ => nofun, fun _ => nofun⟩
  | error fault =>
    cases fault with
    | unavailable refused => simp [Except.mapError, ConversionError.ofLoading]
    | notNumber | limit => simp [Except.mapError, ConversionError.ofLoading]

theorem loadsAsDeclared_of_bank
    (declared : ∀ instrument, converter.bank.LoadsAsDeclared instrument) :
    converter.LoadsAsDeclared := by
  cases chosen : converter.instrument.or converter.bank.available.head? with
  | some instrument => exact (loadsAsDeclared_iff chosen).mpr (declared instrument)
  | none =>
    intro error failed
    cases (loadInstrument_of_none chosen).symm.trans failed
    exact ⟨.emptyBank, rfl⟩

/-- Of the programs of General MIDI only a number that cannot be written fails otherwise. -/
theorem loadsAsDeclared_generalMidi (melodic : converter.bank = .generalMidi)
    (numbered : ∀ instrument ∈ converter.instrument, ∃ number, instrument.program = .int number) :
    converter.LoadsAsDeclared ↔ ∀ instrument ∈ converter.instrument, ∀ number,
      instrument.program = .int number → isWritable number = true := by
  cases given : converter.instrument with
  | some instrument =>
    obtain ⟨number, program⟩ := numbered instrument given
    rw [loadsAsDeclared_iff (by rw [given, Option.some_or]), melodic,
      Bank.loadsAsDeclared_generalMidi program]
    constructor
    · intro writable other same number' program'
      cases same
      cases program.symm.trans program'
      exact writable
    · exact fun writable => writable instrument rfl number program
  | none =>
    have first : converter.instrument.or converter.bank.available.head? =
        some ⟨.ofString "Acoustic Grand Piano", .int 0⟩ := by
      rw [given, melodic]
      rfl
    rw [loadsAsDeclared_iff first, melodic, Bank.loadsAsDeclared_generalMidi rfl]
    exact ⟨fun _ => nofun, fun _ => isWritable_of_lt (Nat.zero_le _) (by decide)⟩

end Converter

namespace Tempo
open Binary64

/-- The beats a minute are at least `2 ^ -989` and below `2 ^ 1015`. -/
def Ordinary (tempo : Tempo) : Prop :=
  ∃ rate, tempo.quartersPerMinute = .ok rate ∧ rate.Normal (-1041) 962

theorem Ordinary.exists_microseconds {tempo : Tempo} (ordinary : tempo.Ordinary) :
    ∃ microseconds, tempo.microsecondsPerQuarter = .ok microseconds := by
  obtain ⟨rate, computed, normal⟩ := ordinary
  obtain ⟨inverted, divided, moderate⟩ := exists_invertRate normal (by decide) (by decide)
  obtain ⟨whole, ended⟩ := moderate.exists_nearestWhole
  refine ⟨whole, ?_⟩
  simp only [microsecondsPerQuarter, computed, divided, bind, Except.bind]
  exact ended

/-- A whole number of beats of whole length is ordinary unless it is immense. -/
theorem ordinary_of_whole {tempo : Tempo} {beats units : Nat} (whole : tempo.value = .whole beats)
    (counted : tempo.reference = .whole units) (fits : (beats * units).log2 ≤ 1000) :
    tempo.Ordinary := by
  have positive : 0 < beats * units := by
    have some := tempo.positive
    have long := tempo.referencePositive
    rw [whole] at some
    rw [counted] at long
    exact Nat.mul_pos (Int.natCast_pos.mp (of_decide_eq_true some))
      (Int.natCast_pos.mp (of_decide_eq_true long))
  have bits : Nat.log2 96 = 6 := by decide
  have normal := ofRatio_normal (-6) 994 ((beats * units : Int) < 0) positive
    (show 0 < 96 by decide) (by omega) (by omega) (by decide) (by decide)
  refine ⟨_, ?_, normal.mono (by decide) (by decide)⟩
  obtain ⟨negative, significand, exponent, rounded, -⟩ := normal
  have size : (beats * units : Int).natAbs = beats * units := by
    rw [Int.natAbs_mul, Int.natAbs_natCast, Int.natAbs_natCast]
  simp only [quartersPerMinute, whole, counted, size, rounded, isInfinite, Bool.false_eq_true,
    if_false]

end Tempo

namespace Playhead
variable {score : Score} {resolution tick : Int} {tempo : Tempo}

private theorem tempo_not_mem_playEach (head : Playhead) (notes : List Note) :
    .tempo tick tempo ∉ (head.playEach score resolution notes).2 := by
  induction notes generalizing head with
  | nil => exact List.not_mem_nil
  | cons note rest ih =>
    intro member
    simp only [playEach, List.mem_append] at member
    rcases member with first | later
    · unfold playSingle at first
      split at first
      · cases List.mem_singleton.mp first
      · cases first
    · exact ih _ later

private theorem tempo_mem_performItem (head : Playhead) {item : Item}
    (member : .tempo tick tempo ∈ (head.performItem score resolution item).2) :
    item = .tempo tempo := by
  cases item with
  | tempo marked =>
    cases List.mem_singleton.mp member
    rfl
  | note single =>
    simp only [performItem, playItem, playNote] at member
    split at member
    · cases member
    · exact absurd member (tempo_not_mem_playEach head _)
  | chord together => cases List.mem_singleton.mp member
  | bar | key | absent => cases member

theorem tempo_mem_perform (head : Playhead) {items : List Item}
    (member : .tempo tick tempo ∈ head.perform score resolution items) :
    .tempo tempo ∈ items := by
  induction items generalizing head with
  | nil => cases member
  | cons item rest ih =>
    rcases List.mem_append.mp member with first | later
    · exact List.mem_cons.mpr (.inl (tempo_mem_performItem head first).symm)
    · exact List.mem_cons_of_mem _ (ih _ later)

end Playhead

/-- Only a tempo of the score is cued. -/
theorem Score.tempo_mem_items {score : Score} {resolution tick : Int} {tempo : Tempo}
    (cued : .tempo tick tempo ∈ score.script resolution) : .tempo tempo ∈ score.items := by
  have audible : .tempo tick tempo ∈ heard (score.script resolution) :=
    List.mem_filter.mpr ⟨cued, rfl⟩
  rw [heard_script] at audible
  rcases mem_performed (Playhead.tempo_mem_perform {} audible) with bar | ⟨-, inside⟩
  · cases bar
  · exact inside

/-- A tempo outside the range of the arithmetic makes the event invalid only where it is undefined. -/
private theorem ConversionError.ofFault_arithmetic {fault : ArithmeticFault}
    (defined : fault ≠ .wholeOfNaN) : ofFault (.arithmetic fault) = .arithmetic fault := by
  cases fault with
  | wholeOfNaN => exact absurd rfl defined
  | wholeTooLarge | quotientTooLarge | zeroDivision | wholeOfInfinity => rfl

namespace Converter
variable {converter : Converter} {score : Score}

/-- What a conversion ends with once its instrument is loaded. -/
private theorem endsAsDeclared_of_loaded {instrument : Instrument} {records : List Log.Record}
    (loaded : converter.loadInstrument = .ok (instrument, records)) :
    (converter.convert score).EndsAsDeclared ↔
      ∀ fault, converter.Overreaches score fault → fault = .wholeOfNaN := by
  simp only [overreaches_iff loaded]
  cases failed : (converter.rendering instrument score).fault with
  | none => exact ⟨fun _ => nofun, fun _ => .track (result_of_sound loaded failed)⟩
  | some first =>
    have ending := result_of_fault loaded failed
    cases first with
    | message refused => exact ⟨fun _ => nofun, fun _ => .invalid ending⟩
    | arithmetic reason =>
      by_cases undefined : reason = .wholeOfNaN
      · subst undefined
        constructor
        · rintro - fault same
          cases same
          rfl
        · exact fun _ => .invalid ending
      · rw [ConversionError.ofFault_arithmetic undefined] at ending
        constructor
        · exact fun ends => absurd ends (Conversion.not_endsAsDeclared ending)
        · exact fun only => absurd (only reason rfl) undefined

private theorem endsAsDeclared_iff : (converter.convert score).EndsAsDeclared ↔
    converter.LoadsAsDeclared ∧ ∀ fault, converter.Overreaches score fault → fault = .wholeOfNaN := by
  cases loading : converter.loadInstrument with
  | ok loaded =>
    obtain ⟨instrument, records⟩ := loaded
    have ready : converter.LoadsAsDeclared := by
      intro error failed
      cases loading.symm.trans failed
    exact (endsAsDeclared_of_loaded loading).trans (and_iff_right ready).symm
  | error error =>
    have ending : (converter.convert score).result = .error error := by
      simp only [convert, loading]
    have silent : ∀ fault, ¬ converter.Overreaches score fault := by
      rintro fault ⟨instrument, records, before, tick, tempo, after, loaded, -⟩
      cases loading.symm.trans loaded
    constructor
    · intro declared
      refine ⟨fun other failed => ?_, fun fault overreaches => absurd overreaches (silent fault)⟩
      cases loading.symm.trans failed
      cases declared with
      | track converted => cases ending.symm.trans converted
      | unavailable refused =>
        cases ending.symm.trans refused
        exact ⟨_, rfl⟩
      | invalid aborted =>
        cases ending.symm.trans aborted
        exact absurd loading (loadInstrument_ne_invalidEvent _)
    · rintro ⟨declared, -⟩
      obtain ⟨fault, rfl⟩ := declared error loading
      exact .unavailable ending

/-- A score all of whose tempi are of ordinary size stays in the range of the arithmetic. -/
private theorem not_overreaches (ordinary : ∀ tempo, .tempo tempo ∈ score.items → tempo.Ordinary)
    (fault : ArithmeticFault) : ¬ converter.Overreaches score fault := by
  rintro ⟨instrument, records, before, tick, tempo, after, -, split, -, computed⟩
  have cued : .tempo tick tempo ∈ score.script converter.resolution := by
    rw [split]
    exact List.mem_append_right before List.mem_cons_self
  obtain ⟨microseconds, ended⟩ := (ordinary tempo (Score.tempo_mem_items cued)).exists_microseconds
  cases computed.symm.trans ended

end Converter

/-- A conversion ends as it declares, unless its bank fails in another way than it says or the first
event without a message is a tempo that leaves the range of the arithmetic. No tempo of ordinary size
does, and General MIDI only fails so where a number cannot be written. -/
theorem Converter.convert_endsAsDeclared (converter : Converter) (score : Score) :
    ((converter.convert score).EndsAsDeclared ↔ converter.LoadsAsDeclared ∧
      ∀ fault, converter.Overreaches score fault → fault = .wholeOfNaN) ∧
    ((∀ tempo, .tempo tempo ∈ score.items → tempo.Ordinary) →
      ∀ fault, ¬ converter.Overreaches score fault) ∧
    ((∀ instrument, converter.bank.LoadsAsDeclared instrument) → converter.LoadsAsDeclared) ∧
    (converter.bank = .generalMidi →
      (∀ instrument ∈ converter.instrument, ∃ number, instrument.program = .int number) →
      (converter.LoadsAsDeclared ↔ ∀ instrument ∈ converter.instrument, ∀ number,
        instrument.program = .int number → isWritable number = true)) :=
  ⟨endsAsDeclared_iff, not_overreaches, loadsAsDeclared_of_bank, loadsAsDeclared_generalMidi⟩

/-- A tempo of ordinary size and a note above the range of the messages. -/
def Score.shrill : Score where
  items := [.tempo .allegro, .note { id := 0, octave := 9 }]

def Converter.flautist : Converter where
  encoding := {}
  instrument := some ⟨.ofString "Flute", .int 73⟩

theorem Converter.convert_endsAsDeclared_shrill :
    (∀ tempo, .tempo tempo ∈ Score.shrill.items → tempo.Ordinary) ∧
      (∀ instrument, flute.bank.LoadsAsDeclared instrument) ∧
      (∀ instrument ∈ flautist.instrument, ∃ number, instrument.program = .int number) ∧
      (flute.convert Score.shrill).EndsAsDeclared ∧
      (flautist.convert Score.shrill).EndsAsDeclared := by
  have ordinary : ∀ tempo, .tempo tempo ∈ Score.shrill.items → tempo.Ordinary := by
    intro tempo member
    cases member with
    | head =>
      have beats : Tempo.allegro.value = .whole (120 : Nat) := rfl
      have units : Tempo.allegro.reference = .whole (96 : Nat) := rfl
      exact Tempo.ordinary_of_whole beats units (by decide)
    | tail _ member => cases List.mem_singleton.mp member
  have lenient : ∀ instrument, flute.bank.LoadsAsDeclared instrument := fun instrument _ => nofun
  have numbered : ∀ instrument ∈ flautist.instrument, ∃ number, instrument.program = .int number := by
    intro instrument chosen
    cases chosen
    exact ⟨73, rfl⟩
  have writable : ∀ instrument ∈ flautist.instrument, ∀ number,
      instrument.program = .int number → isWritable number = true := by
    intro instrument chosen number program
    cases chosen
    cases program
    exact isWritable_of_lt (show 2 ≤ maxDigits by decide) (by decide)
  obtain ⟨ends, moderate, loads, -⟩ := convert_endsAsDeclared flute Score.shrill
  obtain ⟨endsMelodic, moderateMelodic, -, melodic⟩ := convert_endsAsDeclared flautist Score.shrill
  refine ⟨ordinary, lenient, numbered, ends.mpr ⟨loads lenient, ?_⟩,
    endsMelodic.mpr ⟨(melodic rfl numbered).mpr writable, ?_⟩⟩
  · exact fun fault overreaches => absurd overreaches (moderate ordinary fault)
  · exact fun fault overreaches => absurd overreaches (moderateMelodic ordinary fault)

/-- The least value above zero, so few beats a minute that a beat lasts longer than any number. -/
def Tempo.faint : Tempo where
  value := .real (.finite false 1 (-1074))
  reference := .whole 96
  positive := rfl
  referencePositive := allegro.referencePositive

theorem Converter.convert_faint :
    (Converter.usual.convert ⟨[.tempo .faint]⟩).result = .error (.arithmetic .wholeOfInfinity) ∧
      ¬ (Converter.usual.convert ⟨[.tempo .faint]⟩).EndsAsDeclared := by
  have loaded : Converter.usual.loadInstrument = .ok (⟨.ofString "Acoustic Grand Piano", .int 0⟩,
      [Bank.loadedRecord ⟨.ofString "Acoustic Grand Piano", .int 0⟩ 0]) := rfl
  have failed : (Converter.usual.rendering ⟨.ofString "Acoustic Grand Piano", .int 0⟩
      ⟨[.tempo .faint]⟩).fault = some (.arithmetic .wholeOfInfinity) := by decide +kernel
  have escaped := result_of_fault loaded failed
  exact ⟨escaped, Conversion.not_endsAsDeclared escaped⟩

end ScorePlayback
