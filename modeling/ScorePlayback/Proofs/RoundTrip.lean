import ScorePlayback.Proofs.Spans

/-! A converted track written to a file and read back. The file has a tempo for every tempo of the
track, and every program, every start and every stop of a note at its own tick. -/

namespace ScorePlayback

namespace Message

def kind? : Message → Option EventKind
  | noteOn .. => some .noteOn
  | noteOff .. => some .noteOff
  | programChange .. => some .programChange
  | setTempo _ => some .tempo
  | controlChange .. => none

/-- The channel and the number of the note that a message is about. -/
def pitch? : Message → Option (Channel × DataByte)
  | noteOn channel note _ => some (channel, note)
  | noteOff channel note _ => some (channel, note)
  | _ => none

end Message

def FileMoment.ofKind? (kind : EventKind) (moment : FileMoment) : Option (Int × Message) :=
  (moment.event.message?.filter (·.kind? = some kind)).map (moment.tick, ·)

def FileTrack.ofKind (track : FileTrack) (kind : EventKind) : List (Int × Message) :=
  track.moments.filterMap (FileMoment.ofKind? kind)

/-- What a file gives back of the track that it was written for. -/
structure Content.Holds (content : Content) (track : Track) : Prop where
  resolution : (content.resolution : Int) = track.resolution
  tempi : ((content.conductor.ofKind .tempo).map Prod.fst).Perm
    ((track.ofKind .tempo).map Event.tick)
  programs : (content.music.ofKind .programChange).Perm
    ((track.ofKind .programChange).map fun event => (event.tick, event.message))
  starts : (content.music.ofKind .noteOn).Perm
    ((track.ofKind .noteOn).map fun event => (event.tick, event.message))
  stops : ((content.music.ofKind .noteOff).map fun found => (found.1, found.2.pitch?)).Perm
    ((track.ofKind .noteOff).map fun event => (event.tick, event.message.pitch?))
  length : (content.music.length : Int) = track.untimed.ticks

theorem FileTrack.ofKind_ofTimed {events : List TimedBytes}
    (nonneg : ∀ timed ∈ events, 0 ≤ timed.tick) (kind : EventKind) :
    ((ofTimed events).ofKind kind).Perm
      ((events.map TimedBytes.moment).filterMap (FileMoment.ofKind? kind)) := by
  have sorted := (List.mergeSort_perm events TimedBytes.notAfter).map TimedBytes.moment
  rw [ofKind, moments_ofTimed nonneg, List.filterMap_append]
  exact (List.append_nil _).symm ▸ sorted.filterMap (FileMoment.ofKind? kind)

section Written
variable {resolution : Int} {encoding : Encoding} {channel : Channel} {program : DataByte}
  {blocks : List Block}
  (stated : ∀ block ∈ blocks, block.Stated) (later : ∀ event ∈
    (Track.ofBlocks resolution encoding channel program blocks).events, 0 ≤ event.tick)

include stated later in
theorem FileTrack.conductor_tempi :
    (((ofTimed (MidiFile.conductor (Sheet.entriesOf channel program blocks))).ofKind .tempo).map
      Prod.fst).Perm
        (((Track.ofBlocks resolution encoding channel program blocks).ofKind .tempo).map
          Event.tick) := by
  have read := ofKind_ofTimed (MidiFile.conductor_nonneg stated later) .tempo
  have ticks : ∀ timed ∈ MidiFile.conductor (Sheet.entriesOf channel program blocks),
      ((FileMoment.ofKind? .tempo ∘ TimedBytes.moment) timed).map Prod.fst =
        (some ∘ TimedBytes.tick) timed := by
    intro timed member
    obtain ⟨entry, -, left⟩ := List.mem_filterMap.mp member
    obtain ⟨-, tick, microseconds, value, -, said⟩ := MidiFile.moment_tempoEvent left
    have same : timed.tick = tick := congrArg FileMoment.tick said
    rw [Function.comp_apply, said]
    exact congrArg some same.symm
  have all := read.map Prod.fst
  rw [List.filterMap_map, List.map_filterMap, List.filterMap_congr ticks,
    List.filterMap_eq_map, Track.ticks_conductor stated] at all
  exact all

include later in
theorem FileTrack.music_programs (text : List UInt8) :
    ((ofTimed (MidiFile.music text (Sheet.entriesOf channel program blocks))).ofKind
      .programChange).Perm
        (((Track.ofBlocks resolution encoding channel program blocks).ofKind .programChange).map
          fun event => (event.tick, event.message)) := by
  have read := ofKind_ofTimed (MidiFile.music_nonneg later text) .programChange
  have others : ((Span.all blocks).flatMap Span.moments).filterMap
      (FileMoment.ofKind? .programChange) = [] := by
    rw [List.filterMap_flatMap]
    exact List.flatMap_eq_nil_iff.mpr fun _ _ => rfl
  rw [MidiFile.moments_music] at read
  rw [Track.programs_ofBlocks]
  exact read.trans
    (.of_eq (congrArg (((0 : Int), Message.programChange channel program) :: ·) others))

include later in
theorem FileTrack.music_starts (text : List UInt8) :
    ((ofTimed (MidiFile.music text (Sheet.entriesOf channel program blocks))).ofKind .noteOn).Perm
      (((Track.ofBlocks resolution encoding channel program blocks).ofKind .noteOn).map
        fun event => (event.tick, event.message)) := by
  have read := ofKind_ofTimed (MidiFile.music_nonneg later text) .noteOn
  have started : ((Span.all blocks).flatMap Span.moments).filterMap (FileMoment.ofKind? .noteOn) =
      (Span.all blocks).map fun span => (span.startEvent.tick, span.startEvent.message) := by
    rw [List.filterMap_flatMap, List.map_eq_flatMap]
    rfl
  rw [MidiFile.moments_music] at read
  rw [Track.noteOns_ofBlocks, List.map_map]
  exact read.trans (.of_eq started)

private theorem Encoding.pitch?_stopMessage (encoding : Encoding) (start : Start) :
    (encoding.stopMessage start).pitch? = some (start.channel, start.note) := by
  unfold stopMessage
  cases encoding.kind <;> rfl

include later in
private theorem FileTrack.music_stops (text : List UInt8) :
    (((ofTimed (MidiFile.music text (Sheet.entriesOf channel program blocks))).ofKind
      .noteOff).map fun found => (found.1, found.2.pitch?)).Perm
        (((Track.ofBlocks resolution encoding channel program blocks).ofKind .noteOff).map
          fun event => (event.tick, event.message.pitch?)) := by
  have read := ofKind_ofTimed (MidiFile.music_nonneg later text) .noteOff
  have stopped : ((Span.all blocks).flatMap Span.moments).filterMap (FileMoment.ofKind? .noteOff) =
      (Span.all blocks).map fun span =>
        (span.stop, .noteOff span.start.channel span.start.note span.start.velocity) := by
    rw [List.filterMap_flatMap, List.map_eq_flatMap]
    rfl
  have pitches : ∀ span : Span, ((span.stopEvent encoding).tick,
      (span.stopEvent encoding).message.pitch?) =
        (span.stop, some (span.start.channel, span.start.note)) := fun span =>
    congrArg (Prod.mk span.stop) (encoding.pitch?_stopMessage span.start)
  rw [MidiFile.moments_music] at read
  have all := (read.trans (.of_eq stopped)).map fun found => (found.1, found.2.pitch?)
  rw [List.map_map] at all
  rw [Track.noteOffs_ofBlocks, List.map_map]
  exact all.trans (.of_eq (List.map_congr_left fun span _ => (pitches span).symm))

include later in
private theorem FileTrack.music_length (text : List UInt8) :
    ((ofTimed (MidiFile.music text (Sheet.entriesOf channel program blocks))).length : Int) =
      (Track.ofBlocks resolution encoding channel program blocks).untimed.ticks := by
  obtain ⟨timed, member, length, latest⟩ :=
    exists_latest (List.cons_ne_nil _ _) (MidiFile.music_nonneg later text)
  obtain ⟨event, untimed, same⟩ := (MidiFile.exists_music_iff text).mp ⟨timed, member, rfl⟩
  have last : (Track.ofBlocks resolution encoding channel program blocks).untimed.ticks =
      event.tick := by
    refine Track.ticks_eq_of_latest untimed fun other inside => ?_
    obtain ⟨found, own, tick⟩ := (MidiFile.exists_music_iff text).mpr ⟨other, inside, rfl⟩
    rw [same, ← tick]
    exact latest found own
  exact length.trans (same.symm.trans last.symm)

end Written

/-- A converted track is written without a warning, and the file that it is written to is read back
with every program, start and stop at its tick and a tempo for every tempo of the track. -/
theorem Converter.export_readBack (converter : Converter) (score : Score) (track : Track)
    (name : LooseText) (text : List UInt8)
    (converted : (converter.convert score).result = .ok track)
    (low : 1 ≤ converter.resolution) (high : converter.resolution ≤ 65535)
    (nonzero : ∀ event ∈ track.ofKind .tempo, event.message ≠ .setTempo 0)
    (encoded : Text.Latin1.encode name = .ok text) (fits : MidiFile.Fits text track) :
    ∃ file content, (MidiFile.ofTrack name track).result = .ok file ∧
      (MidiFile.ofTrack name track).log = [] ∧
      Content.read? file = some content ∧ content.Holds track := by
  obtain ⟨channel, program, blocks, plays, rfl⟩ := exists_blocks converted
  have nonneg : 0 ≤ converter.resolution := Int.le_trans (by decide) low
  have fitting : converter.resolution < 0x10000 := Int.lt_add_one_of_le high
  have later := plays.nonneg nonneg channel program
  have stated : ∀ block ∈ blocks, block.Stated := fun block member =>
    Block.stated_of_nonzero fun event held tempo => nonzero event (List.mem_filter.mpr
      ⟨List.mem_cons_of_mem _ (List.mem_flatMap.mpr ⟨block, member, held⟩), decide_eq_true tempo⟩)
  have written : MidiFile.ofTrack name (.ofBlocks converter.resolution converter.encoding channel
      program blocks) = _ := MidiFile.ofTrack_ofBlocks encoded nonneg fitting stated
  have read := Content.read?_ofBlocks stated later nonneg fitting fits
  refine ⟨_, _, congrArg MidiFile.Rendered.result written, congrArg MidiFile.Rendered.log written,
    read, ?_⟩
  exact {
    resolution := Int.toNat_of_nonneg nonneg
    tempi := FileTrack.conductor_tempi stated later
    programs := FileTrack.music_programs later text
    starts := FileTrack.music_starts later text
    stops := FileTrack.music_stops later text
    length := FileTrack.music_length later text }

/-- A tempo and a note that is struck again at the tick at which it ends. -/
def Score.restruck : Score where
  items := [.tempo .allegro, .note { id := 0, duration := 48 }, .note { id := 1, duration := 48 }]

def Track.restruck : Track :=
  (Converter.flute.convert Score.restruck).result.toOption.getD { resolution := 0 }

theorem MidiFile.trackBody_of_pairwise {events : List TimedBytes}
    (order : events.Pairwise fun first second => TimedBytes.notAfter first second) :
    trackBody events = TimedBytes.withDeltas 0 events ++ endOfTrack :=
  congrArg (TimedBytes.withDeltas 0 · ++ endOfTrack) (List.mergeSort_of_pairwise order)

theorem Converter.convert_restruck :
    (flute.convert Score.restruck).result = .ok Track.restruck :=
  except_eq_ok_getD (by decide +kernel) _

theorem Text.Latin1.encode_score : encode "Score" = .ok [0x53, 0x63, 0x6f, 0x72, 0x65] :=
  except_eq_ok_of_toOption (by decide +kernel)

theorem MidiFile.fits_restruck : Fits [0x53, 0x63, 0x6f, 0x72, 0x65] Track.restruck := by
  constructor
  all_goals
    rw [trackBody_of_pairwise (by decide +kernel)]
    decide +kernel

theorem Converter.export_readBack_restruck :
    ∃ file content, (MidiFile.ofTrack "Score" Track.restruck).result = .ok file ∧
      (MidiFile.ofTrack "Score" Track.restruck).log = [] ∧
      Content.read? file = some content ∧ content.Holds Track.restruck :=
  export_readBack flute Score.restruck Track.restruck "Score" _ convert_restruck (by decide)
    (by decide) (by decide +kernel) Text.Latin1.encode_score MidiFile.fits_restruck

end ScorePlayback
