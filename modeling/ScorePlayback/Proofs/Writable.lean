import ScorePlayback.Proofs.Hanging
import ScorePlayback.Proofs.WrittenOut

/-! Which converted tracks can be written to a file. The beats a minute are had by division by the
microseconds of a quarter note, so a track with a tempo of no microseconds is refused. Every other
track is written, and the file can be read. -/

namespace ScorePlayback

namespace Tempo

/-- A quarter note is so short that it takes no microsecond. -/
def Vanishes (tempo : Tempo) : Prop := tempo.microsecondsPerQuarter = .ok 0

instance (tempo : Tempo) : Decidable tempo.Vanishes := inferInstanceAs (Decidable (_ = _))

theorem statedMicroseconds_zero : statedMicroseconds 0 = .error .zeroDivision := rfl

end Tempo

private theorem Encoding.vanishes_iff {encoding : Encoding} {marked : Tempo} {value : TempoValue}
    (built : encoding.tempo marked = .ok (.setTempo value)) : marked.Vanishes ↔ value = 0 := by
  obtain ⟨microseconds, computed, built⟩ := except_bind_eq_ok.mp built
  obtain ⟨field, bounded, same⟩ := except_bind_eq_ok.mp (except_mapError_eq_ok.mp built)
  cases same
  have number := Option.some.inj (FieldValue.bounded_eq_ok.mp bounded)
  rw [Tempo.Vanishes, except_mapError_eq_ok.mp computed, Except.ok.injEq, number, Fin.ext_iff]
  exact Int.natCast_eq_zero

theorem Block.stated_tempo_iff {tick : Int} {value : TempoValue} :
    (Block.tempo tick value).Stated ↔ value ≠ 0 := by
  constructor
  · rintro ⟨microseconds, computed⟩ rfl
    cases Tempo.statedMicroseconds_zero.symm.trans computed
  · exact Tempo.exists_statedMicroseconds

theorem Part.Leaves.stated_iff {encoding : Encoding} {part : Part} {tick stop : Int} {block : Block}
    (leaves : part.Leaves encoding tick stop block) :
    block.Stated ↔ ∀ marked, part = .tempo marked → ¬ marked.Vanishes := by
  cases part with
  | tempo marked =>
    obtain ⟨value, built, rfl⟩ := leaves
    rw [Block.stated_tempo_iff, ne_eq, ← Encoding.vanishes_iff built]
    constructor
    · rintro lasts other same
      cases same
      exact lasts
    · exact fun lasts => lasts marked rfl
  | single | chord =>
    obtain ⟨key, starts, rfl, -⟩ := leaves
    exact ⟨fun _ => nofun, fun _ => trivial⟩

/-- The blocks of some parts can all be stated if no tempo among the parts vanishes. -/
theorem Score.Plays.stated_iff {score : Score} {encoding : Encoding} {resolution tick : Int}
    {parts : List Part} {blocks : List Block}
    (plays : score.Plays encoding resolution tick parts blocks) :
    (∀ block ∈ blocks, block.Stated) ↔ ∀ marked, .tempo marked ∈ parts → ¬ marked.Vanishes := by
  induction plays with
  | done => exact ⟨fun _ => nofun, fun _ => nofun⟩
  | next leaves _ ih =>
    rw [List.forall_mem_cons, leaves.stated_iff, ih]
    constructor
    · rintro ⟨first, rest⟩ marked member
      rcases List.mem_cons.mp member with same | later
      · exact first marked same.symm
      · exact rest marked later
    · intro all
      refine ⟨fun marked same => ?_, fun marked later => all marked (List.mem_cons_of_mem _ later)⟩
      exact all marked (List.mem_cons.mpr (.inl same.symm))

theorem Score.mem_items_of_played {score : Score} {marked : Tempo}
    (played : .tempo marked ∈ score.parts) : .tempo marked ∈ score.items := by
  obtain ⟨item, performed, own⟩ := List.mem_flatMap.mp played
  have same : item = .tempo marked := by
    cases item with
    | tempo other =>
      cases List.mem_singleton.mp own
      rfl
    | note single =>
      rw [Item.parts] at own
      split at own
      · cases own
      · obtain ⟨note, -, other⟩ := List.mem_map.mp own
        cases other
    | chord together => cases List.mem_singleton.mp own
    | bar | key | absent => cases own
  rcases mem_performed performed with bar | ⟨-, inside⟩
  · cases same.symm.trans bar
  · exact same ▸ inside

namespace Sheet

/-- The first block that cannot be stated ends the gathering. -/
private theorem fault_of_unstated {resolution : Int} (encoding : Encoding) (channel : Channel)
    (program : DataByte) {blocks : List Block} (unstated : ¬ ∀ block ∈ blocks, block.Stated) :
    (ofEvents [] (Track.ofBlocks resolution encoding channel program blocks).events).fault =
      some (.tempo .zeroDivision) := by
  have taken : step [] (programEvent channel program) =
      .ok ([], some (.program 0 channel program)) := rfl
  rw [Track.ofBlocks, ofEvents_cons taken]
  change (ofEvents [] (blocks.flatMap (Block.events encoding))).fault = _
  induction blocks with
  | nil => exact absurd (List.forall_mem_nil _) unstated
  | cons first rest ih =>
    rw [List.flatMap_cons]
    by_cases stated : first.Stated
    · rw [ofEvents_block encoding stated]
      refine ih fun others => unstated ?_
      exact List.forall_mem_cons.mpr ⟨stated, others⟩
    · cases first with
      | sound => exact absurd trivial stated
      | tempo tick value =>
        obtain rfl : value = 0 := by
          rwa [Block.stated_tempo_iff, not_not] at stated
        rfl

end Sheet

theorem MidiFile.ofTrack_of_fault {name : LooseText} {track : Track} {text : List UInt8}
    {fault : FileFault} (encoded : Text.Latin1.encode name = .ok text)
    (bounds : 0 ≤ track.resolution ∧ track.resolution < 0x10000)
    (failed : (Sheet.ofEvents [] track.events).fault = some fault) :
    (ofTrack name track).result = .error fault := by
  unfold ofTrack
  rw [if_pos bounds, encoded]
  simp only [failed]

/-- A converted track is written to a file that can be read, unless a tempo is played that vanishes.
With such a tempo the writing ends in a division by zero. -/
theorem Converter.export_succeeds_iff (converter : Converter) (score : Score) (track : Track)
    (name : LooseText) (text : List UInt8)
    (converted : (converter.convert score).result = .ok track)
    (low : 1 ≤ converter.resolution) (high : converter.resolution ≤ 65535)
    (encoded : Text.Latin1.encode name = .ok text) (fits : MidiFile.Fits text track) :
    ((∃ file, (MidiFile.ofTrack name track).result = .ok file ∧
        ∃ content, Content.read? file = some content) ↔
      ∀ marked, .tempo marked ∈ score.parts → ¬ marked.Vanishes) ∧
    ∀ marked, .tempo marked ∈ score.parts → marked.Vanishes →
      (MidiFile.ofTrack name track).result = .error (.tempo .zeroDivision) := by
  obtain ⟨channel, program, blocks, plays, rfl⟩ := exists_blocks converted
  have nonneg : 0 ≤ converter.resolution := Int.le_trans (by decide) low
  have fitting : converter.resolution < 0x10000 := Int.lt_add_one_of_le high
  refine ⟨⟨?_, fun lasts => ?_⟩, fun marked member vanishes => ?_⟩
  · rintro ⟨file, written, -⟩
    obtain ⟨-, sound⟩ := MidiFile.ofTrack_eq_ok written encoded
    exact plays.stated_iff.mp (Sheet.stated_of_sound converter.encoding sound)
  · have stated := plays.stated_iff.mpr lasts
    have written : MidiFile.ofTrack name (.ofBlocks converter.resolution converter.encoding channel
        program blocks) = _ := MidiFile.ofTrack_ofBlocks encoded nonneg fitting stated
    have later := plays.nonneg nonneg channel program
    exact ⟨_, congrArg MidiFile.Rendered.result written, _,
      Content.read?_ofBlocks stated later nonneg fitting fits⟩
  · have unstated : ¬ ∀ block ∈ blocks, block.Stated := fun stated =>
      plays.stated_iff.mp stated marked member vanishes
    exact MidiFile.ofTrack_of_fault encoded ⟨nonneg, fitting⟩
      (Sheet.fault_of_unstated converter.encoding channel program unstated)

theorem Converter.export_succeeds_restruck :
    ∃ file, (MidiFile.ofTrack "Score" Track.restruck).result = .ok file ∧
      ∃ content, Content.read? file = some content := by
  refine (export_succeeds_iff flute Score.restruck Track.restruck "Score" _ convert_restruck
    (by decide) (by decide) Text.Latin1.encode_score MidiFile.fits_restruck).1.mpr ?_
  intro marked played
  have member := Score.mem_items_of_played played
  obtain rfl : marked = .allegro := by simpa [Score.restruck] using member
  decide +kernel

/-- A thousand million beats a minute. A quarter note takes sixty nanoseconds. -/
def Tempo.frantic : Tempo where
  value := .whole 1000000000
  reference := .whole 96
  positive := rfl
  referencePositive := allegro.referencePositive

theorem Converter.export_frantic :
    ∃ track : Track, (Converter.usual.convert ⟨[.tempo .frantic]⟩).result = .ok track ∧
      MidiFile.Fits [0x53, 0x63, 0x6f, 0x72, 0x65] track ∧
      (MidiFile.ofTrack "Score" track).result = .error (.tempo .zeroDivision) := by
  refine ⟨{
    resolution := 96
    events := [programEvent 0 0, { tick := 0, kind := .tempo, message := .setTempo 0 }] },
    except_eq_ok_of_toOption (by decide +kernel), ?_, ?_⟩
  · constructor
    all_goals
      rw [MidiFile.trackBody_of_pairwise (by decide +kernel)]
      decide +kernel
  · exact MidiFile.ofTrack_of_fault Text.Latin1.encode_score (by decide) (by decide +kernel)

end ScorePlayback
