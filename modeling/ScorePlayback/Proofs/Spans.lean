import ScorePlayback.Proofs.FileTracks
import ScorePlayback.Proofs.Pairing

/-! The notes of a converted track, from their starts to their stops, in the events of the track and
in those of the file that it is written to. -/

namespace ScorePlayback

/-- The track without its tempi. -/
def Track.untimed (track : Track) : Track :=
  { track with events := track.events.filter (·.kind ≠ .tempo) }

/-- The two tracks of a file are short enough for the lengths in front of them. -/
structure MidiFile.Fits (name : List UInt8) (track : Track) : Prop where
  conductor : (trackBody (conductor (Sheet.ofEvents [] track.events).entries)).length < 0x100000000
  music : (trackBody (music name (Sheet.ofEvents [] track.events).entries)).length < 0x100000000

/-- A note from its start to its stop. -/
structure Span where
  start : Start
  stop : Int

namespace Span

def startEvent (span : Span) : Event := span.start.event

def stopEvent (encoding : Encoding) (span : Span) : Event :=
  encoding.stopEvent span.stop span.start

def timed (span : Span) : List TimedBytes := MidiFile.musicEvents (.note span.start span.stop)

def moments (span : Span) : List FileMoment := [
  ⟨span.start.tick,
    .message (.noteOn span.start.channel span.start.note span.start.velocity)⟩,
  ⟨span.stop, .message (.noteOff span.start.channel span.start.note span.start.velocity)⟩]

end Span

def Block.spans : Block → List Span
  | tempo _ _ => []
  | sound starts stop => starts.map (⟨·, stop⟩)

theorem Event.filter_kind {own : EventKind} (event : α → Event)
    (same : ∀ item, (event item).kind = own) (kind : EventKind) (items : List α) :
    (items.map event).filter (·.kind = kind) = if own = kind then items.map event else [] := by
  split
  next agrees =>
    refine List.filter_eq_self.mpr fun found member => ?_
    obtain ⟨item, -, rfl⟩ := List.mem_map.mp member
    exact decide_eq_true ((same item).trans agrees)
  next differs =>
    refine List.filter_eq_nil_iff.mpr fun found member agrees => ?_
    obtain ⟨item, -, rfl⟩ := List.mem_map.mp member
    exact differs ((same item).symm.trans (of_decide_eq_true agrees))

namespace Block
variable {encoding : Encoding}

theorem timed_entries (block : Block) :
    block.entries.flatMap MidiFile.musicEvents = block.spans.flatMap Span.timed := by
  cases block with
  | tempo tick value =>
    rw [entries, List.flatMap_map]
    exact List.flatMap_eq_nil_iff.mpr fun _ _ => rfl
  | sound starts stop =>
    rw [entries, spans, List.flatMap_map, List.flatMap_map]
    rfl

theorem filter_sound (encoding : Encoding) (kind : EventKind) (starts : List Start) (stop : Int) :
    ((sound starts stop).events encoding).filter (·.kind = kind) =
      (if .noteOn = kind then starts.map Start.event else []) ++
        (if .noteOff = kind then starts.map (encoding.stopEvent stop) else []) := by
  rw [events, List.filter_append, Event.filter_kind Start.event fun _ => rfl,
    Event.filter_kind (encoding.stopEvent stop) fun _ => rfl]

theorem filter_noteOn (encoding : Encoding) (block : Block) :
    (block.events encoding).filter (·.kind = .noteOn) = block.spans.map Span.startEvent := by
  cases block with
  | tempo => rfl
  | sound starts stop =>
    rw [filter_sound, spans, List.map_map]
    exact List.append_nil _

theorem filter_noteOff (encoding : Encoding) (block : Block) :
    (block.events encoding).filter (·.kind = .noteOff) =
      block.spans.map (Span.stopEvent encoding) := by
  cases block with
  | tempo => rfl
  | sound starts stop =>
    rw [filter_sound, spans, List.map_map]
    rfl

theorem filter_programChange (encoding : Encoding) (block : Block) :
    (block.events encoding).filter (·.kind = .programChange) = [] := by
  cases block with
  | tempo => rfl
  | sound starts stop => exact filter_sound encoding .programChange starts stop

theorem ticks_tempo (encoding : Encoding) {block : Block} (stated : block.Stated) :
    (MidiFile.conductor block.entries).map TimedBytes.tick =
      ((block.events encoding).filter (·.kind = .tempo)).map Event.tick := by
  cases block with
  | tempo tick value =>
    obtain ⟨microseconds, computed⟩ := stated
    simp only [entries, computed]
    rfl
  | sound starts stop =>
    rw [filter_sound, entries, MidiFile.conductor, List.filterMap_map]
    exact congrArg (List.map TimedBytes.tick) (List.filterMap_eq_nil_iff.mpr fun _ _ => rfl)

theorem mem_events {block : Block} {event : Event} (member : event ∈ block.events encoding) :
    event.kind = .tempo ∨
      ∃ span ∈ block.spans, event = span.startEvent ∨ event = span.stopEvent encoding := by
  cases block with
  | tempo tick value =>
    obtain rfl := List.mem_singleton.mp member
    exact .inl rfl
  | sound starts stop =>
    refine .inr ?_
    rcases List.mem_append.mp member with inside | inside
    · obtain ⟨start, among, rfl⟩ := List.mem_map.mp inside
      exact ⟨_, List.mem_map_of_mem among, .inl rfl⟩
    · obtain ⟨start, among, rfl⟩ := List.mem_map.mp inside
      exact ⟨_, List.mem_map_of_mem among, .inr rfl⟩

end Block

def Sheet.entriesOf (channel : Channel) (program : DataByte) (blocks : List Block) : List Entry :=
  .program 0 channel program :: blocks.flatMap Block.entries

def Span.all (blocks : List Block) : List Span := blocks.flatMap Block.spans

section Export
variable {resolution : Int} {encoding : Encoding} {channel : Channel} {program : DataByte}
  {blocks : List Block}

theorem Sheet.ofEvents_ofBlocks (stated : ∀ block ∈ blocks, block.Stated) :
    ofEvents [] (Track.ofBlocks resolution encoding channel program blocks).events =
      { entries := entriesOf channel program blocks } := by
  have taken : step [] (programEvent channel program) =
      .ok ([], some (.program 0 channel program)) := rfl
  rw [Track.ofBlocks, ofEvents_cons taken, ofEvents_blocks encoding stated]
  rfl

private theorem Sheet.log_entriesOf (channel : Channel) (program : DataByte) (blocks : List Block) :
    log { entries := entriesOf channel program blocks } = [] := by
  have none : (entriesOf channel program blocks).filterMap strayRecord? = [] := by
    refine List.filterMap_eq_nil_iff.mpr (List.forall_mem_cons.mpr ⟨rfl, fun entry member => ?_⟩)
    obtain ⟨block, -, inside⟩ := List.mem_flatMap.mp member
    exact Block.strayRecord?_eq_none inside
  rw [log, none]
  rfl

theorem MidiFile.ofTrack_ofBlocks {name : LooseText} {text : List UInt8}
    (encoded : Text.Latin1.encode name = .ok text) (low : 0 ≤ resolution)
    (high : resolution < 0x10000) (stated : ∀ block ∈ blocks, block.Stated) :
    ofTrack name (.ofBlocks resolution encoding channel program blocks) = {
      result := .ok (bytes resolution.toNat text (Sheet.entriesOf channel program blocks))
      log := [] } := by
  have bounds : 0 ≤ resolution ∧ resolution < 0x10000 := ⟨low, high⟩
  have log := Sheet.log_entriesOf channel program blocks
  unfold ofTrack
  rw [Sheet.ofEvents_ofBlocks stated, encoded]
  simp only [log]
  exact if_pos bounds

theorem Span.timed_all (blocks : List Block) :
    (blocks.flatMap Block.entries).flatMap MidiFile.musicEvents = (all blocks).flatMap timed := by
  rw [all, List.flatMap_assoc, List.flatMap_assoc]
  exact congrArg (blocks.flatMap ·) (funext Block.timed_entries)

theorem MidiFile.moments_music (text : List UInt8) :
    (music text (Sheet.entriesOf channel program blocks)).map TimedBytes.moment =
      ⟨0, .trackName text⟩ :: ⟨0, .message (.programChange channel program)⟩ ::
        (Span.all blocks).flatMap Span.moments := by
  rw [music, Sheet.entriesOf, List.flatMap_cons, Span.timed_all, List.map_cons, List.map_append,
    List.map_flatMap]
  simp only [musicEvents, Span.timed, List.map_cons, List.map_nil, TimedBytes.moment,
    event_nameEvent, event_program, event_start, event_stop]
  rfl

namespace Track

theorem ofKind_ofBlocks (kind : EventKind) :
    (ofBlocks resolution encoding channel program blocks).ofKind kind =
      (if .programChange = kind then [programEvent channel program] else []) ++
        blocks.flatMap fun block => (block.events encoding).filter (·.kind = kind) := by
  rw [ofKind, ofBlocks, List.filter_cons, List.filter_flatMap]
  cases kind <;> rfl

theorem noteOns_ofBlocks : (ofBlocks resolution encoding channel program blocks).ofKind .noteOn =
    (Span.all blocks).map Span.startEvent := by
  rw [ofKind_ofBlocks, Span.all, List.map_flatMap]
  exact congrArg (List.flatMap · blocks) (funext (Block.filter_noteOn encoding))

theorem noteOffs_ofBlocks : (ofBlocks resolution encoding channel program blocks).ofKind .noteOff =
    (Span.all blocks).map (Span.stopEvent encoding) := by
  rw [ofKind_ofBlocks, Span.all, List.map_flatMap]
  exact congrArg (List.flatMap · blocks) (funext (Block.filter_noteOff encoding))

theorem programs_ofBlocks :
    (ofBlocks resolution encoding channel program blocks).ofKind .programChange =
      [programEvent channel program] := by
  have others : (blocks.flatMap fun block =>
      (block.events encoding).filter (·.kind = .programChange)) = [] :=
    List.flatMap_eq_nil_iff.mpr fun block _ => Block.filter_programChange encoding block
  rw [ofKind_ofBlocks, others]
  rfl

theorem ticks_conductor (stated : ∀ block ∈ blocks, block.Stated) :
    (MidiFile.conductor (Sheet.entriesOf channel program blocks)).map TimedBytes.tick =
      ((ofBlocks resolution encoding channel program blocks).ofKind .tempo).map Event.tick := by
  rw [ofKind_ofBlocks, MidiFile.conductor, Sheet.entriesOf]
  change ((blocks.flatMap Block.entries).filterMap MidiFile.tempoEvent?).map TimedBytes.tick = _
  rw [List.filterMap_flatMap, List.map_flatMap, if_neg nofun, List.nil_append, List.map_flatMap]
  exact List.flatMap_congr fun block member => Block.ticks_tempo encoding (stated block member)

/-- What is not a tempo is the program change or belongs to a note. -/
theorem mem_untimed {event : Event} :
    event ∈ (ofBlocks resolution encoding channel program blocks).untimed.events ↔
      event = programEvent channel program ∨
        ∃ span ∈ Span.all blocks, event = span.startEvent ∨ event = span.stopEvent encoding := by
  constructor
  · intro member
    obtain ⟨inside, timeless⟩ := List.mem_filter.mp member
    rcases List.mem_cons.mp inside with first | later
    · exact .inl first
    · obtain ⟨block, among, held⟩ := List.mem_flatMap.mp later
      rcases Block.mem_events held with tempo | ⟨span, own, sounds⟩
      · exact absurd tempo (of_decide_eq_true timeless)
      · exact .inr ⟨span, List.mem_flatMap.mpr ⟨block, among, own⟩, sounds⟩
  · rintro (rfl | ⟨span, among, rfl | rfl⟩)
    · exact List.mem_filter.mpr ⟨List.mem_cons_self, rfl⟩
    · have member := List.mem_map_of_mem (f := Span.startEvent) among
      rw [← noteOns_ofBlocks] at member
      exact List.mem_filter.mpr ⟨(List.mem_filter.mp member).1, rfl⟩
    · have member := List.mem_map_of_mem (f := Span.stopEvent encoding) among
      rw [← noteOffs_ofBlocks] at member
      exact List.mem_filter.mpr ⟨(List.mem_filter.mp member).1, rfl⟩

end Track

theorem MidiFile.exists_music_iff (text : List UInt8) {tick : Int} :
    (∃ timed ∈ music text (Sheet.entriesOf channel program blocks), timed.tick = tick) ↔
      ∃ event ∈ (Track.ofBlocks resolution encoding channel program blocks).untimed.events,
        event.tick = tick := by
  have played : music text (Sheet.entriesOf channel program blocks) =
      nameEvent text :: ⟨0, 1, [status 0xc0 channel, dataByte program]⟩ ::
        (Span.all blocks).flatMap Span.timed := by
    rw [music, Sheet.entriesOf, List.flatMap_cons, Span.timed_all]
    rfl
  rw [played]
  constructor
  · rintro ⟨timed, member, rfl⟩
    rcases List.mem_cons.mp member with rfl | member
    · exact ⟨_, Track.mem_untimed.mpr (.inl rfl), rfl⟩
    rcases List.mem_cons.mp member with rfl | member
    · exact ⟨_, Track.mem_untimed.mpr (.inl rfl), rfl⟩
    obtain ⟨span, among, own⟩ := List.mem_flatMap.mp member
    rcases List.mem_cons.mp own with rfl | own
    · exact ⟨_, Track.mem_untimed.mpr (.inr ⟨span, among, .inl rfl⟩), rfl⟩
    · obtain rfl := List.mem_singleton.mp own
      exact ⟨_, Track.mem_untimed.mpr (.inr ⟨span, among, .inr rfl⟩), rfl⟩
  · rintro ⟨event, member, rfl⟩
    rcases Track.mem_untimed.mp member with rfl | ⟨span, among, rfl | rfl⟩
    · exact ⟨_, List.mem_cons_self, rfl⟩
    all_goals
      have held : ∀ timed ∈ span.timed, timed ∈ (Span.all blocks).flatMap Span.timed :=
        fun timed own => List.mem_flatMap.mpr ⟨span, among, own⟩
    · have own := held _ List.mem_cons_self
      exact ⟨_, List.mem_cons_of_mem _ (List.mem_cons_of_mem _ own), rfl⟩
    · have own := held _ (List.mem_cons_of_mem _ List.mem_cons_self)
      exact ⟨_, List.mem_cons_of_mem _ (List.mem_cons_of_mem _ own), rfl⟩

theorem Score.Plays.nonneg {score : Score} {parts : List Part}
    (plays : score.Plays encoding resolution 0 parts blocks) (nonneg : 0 ≤ resolution)
    (channel : Channel) (program : DataByte) :
    ∀ event ∈ (Track.ofBlocks resolution encoding channel program blocks).events, 0 ≤ event.tick :=
  List.forall_mem_cons.mpr ⟨Int.le_refl 0, fun event member =>
    ((plays.ordered nonneg).within event member).1⟩

section Written
variable (stated : ∀ block ∈ blocks, block.Stated) (later : ∀ event ∈
  (Track.ofBlocks resolution encoding channel program blocks).events, 0 ≤ event.tick)

include stated later in
theorem MidiFile.conductor_nonneg :
    ∀ timed ∈ conductor (Sheet.entriesOf channel program blocks), 0 ≤ timed.tick := by
  intro timed member
  have tick := List.mem_map_of_mem (f := TimedBytes.tick) member
  rw [Track.ticks_conductor stated] at tick
  obtain ⟨event, tempo, same⟩ := List.mem_map.mp tick
  exact same ▸ later event (List.mem_filter.mp tempo).1

include later in
theorem MidiFile.music_nonneg (text : List UInt8) :
    ∀ timed ∈ music text (Sheet.entriesOf channel program blocks), 0 ≤ timed.tick := by
  intro timed member
  obtain ⟨event, untimed, same⟩ := (exists_music_iff text).mp ⟨timed, member, rfl⟩
  exact same ▸ later event (List.mem_filter.mp untimed).1

include stated later in
/-- A track of blocks that is written to a file is read back as the tracks of its entries. -/
theorem Content.read?_ofBlocks {text : List UInt8} (low : 0 ≤ resolution)
    (high : resolution < 0x10000)
    (fits : MidiFile.Fits text (.ofBlocks resolution encoding channel program blocks)) :
    let entries := Sheet.entriesOf channel program blocks
    read? (MidiFile.bytes resolution.toNat text entries) = some {
      resolution := resolution.toNat
      conductor := .ofTimed (MidiFile.conductor entries)
      music := .ofTimed (MidiFile.music text entries) } := by
  obtain ⟨conductor, music⟩ := fits
  rw [Sheet.ofEvents_ofBlocks stated] at conductor music
  exact read?_bytes (by omega) (MidiFile.conductor_nonneg stated later) conductor
    (MidiFile.music_nonneg later text) music

end Written

end Export

end ScorePlayback
