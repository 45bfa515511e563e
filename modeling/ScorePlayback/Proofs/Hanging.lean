import ScorePlayback.Proofs.Replay
import ScorePlayback.Proofs.RoundTrip

/-! What still sounds when a file has been played to its end. Notes end before others start at the
same tick, so a note that lasts is always ended, and one that does not is ended before it starts. -/

namespace ScorePlayback

namespace Span

def pitch (span : Span) : Channel × DataByte := (span.start.channel, span.start.note)

def started (span : Span) : TimedBytes :=
  ⟨span.start.tick, 3, [MidiFile.status 0x90 span.start.channel, MidiFile.dataByte span.start.note,
    MidiFile.dataByte span.start.velocity]⟩

def stopped (span : Span) : TimedBytes :=
  ⟨span.stop, 2, [MidiFile.status 0x80 span.start.channel, MidiFile.dataByte span.start.note,
    MidiFile.dataByte span.start.velocity]⟩

private theorem timed_eq (span : Span) : span.timed = [span.started, span.stopped] := rfl

theorem event_started (span : Span) : span.started.event =
    .message (.noteOn span.start.channel span.start.note span.start.velocity) :=
  MidiFile.event_start span.start

theorem event_stopped (span : Span) : span.stopped.event =
    .message (.noteOff span.start.channel span.start.note span.start.velocity) :=
  MidiFile.event_stop span.start span.stop

end Span

section Music
variable {channel : Channel} {program : DataByte} {blocks : List Block} (text : List UInt8)
  {pitch : Channel × DataByte}

/-- What is said neither by a name nor by a program is counted by note. -/
theorem MidiFile.countP_music {said : FileEvent → Bool} {among : TimedBytes → Bool}
    {holds : Span → Bool} (name : said (.trackName text) = false)
    (first : said (.message (.programChange channel program)) = false)
    (each : ∀ span : Span, [span.started, span.stopped].countP
      (fun timed => said timed.event && among timed) = if holds span then 1 else 0) :
    (music text (Sheet.entriesOf channel program blocks)).countP
        (fun timed => said timed.event && among timed) = (Span.all blocks).countP holds := by
  have notes : ∀ spans : List Span, (spans.flatMap Span.timed).countP
      (fun timed => said timed.event && among timed) = spans.countP holds := by
    intro spans
    induction spans with
    | nil => rfl
    | cons span rest ih =>
      rw [List.flatMap_cons, List.countP_append, ih, Span.timed_eq, each, List.countP_cons,
        Nat.add_comm]
  rw [music, Sheet.entriesOf, List.flatMap_cons, Span.timed_all, List.countP_cons,
    List.countP_append, notes]
  simp only [musicEvents, List.countP_cons, List.countP_nil, event_nameEvent, event_program, name,
    first, Bool.false_and, Bool.false_eq_true, if_false, Nat.zero_add, Nat.add_zero]

theorem MidiFile.countP_strikes (pitch : Channel × DataByte) (among : TimedBytes → Bool) :
    (music text (Sheet.entriesOf channel program blocks)).countP
        (fun timed => timed.strikes pitch && among timed) =
      (Span.all blocks).countP fun span => decide (span.pitch = pitch) && among span.started := by
  refine countP_music text rfl rfl fun span => ?_
  simp only [List.countP_cons, List.countP_nil, Span.event_started, Span.event_stopped,
    FileEvent.strikes, Bool.false_and, Bool.false_eq_true, if_false, Nat.zero_add]
  rfl

theorem MidiFile.countP_releases (pitch : Channel × DataByte) (among : TimedBytes → Bool) :
    (music text (Sheet.entriesOf channel program blocks)).countP
        (fun timed => timed.releases pitch && among timed) =
      (Span.all blocks).countP fun span => decide (span.pitch = pitch) && among span.stopped := by
  refine countP_music text rfl rfl fun span => ?_
  simp only [List.countP_cons, List.countP_nil, Span.event_started, Span.event_stopped,
    FileEvent.releases, Bool.false_and, Bool.false_eq_true, if_false, Nat.zero_add, Nat.add_zero]
  rfl

/-- Notes that all last are all ended. -/
theorem FileTrack.leftSounding_of_lasting
    (lasting : ∀ span ∈ Span.all blocks, span.start.tick < span.stop) :
    (ofTimed (MidiFile.music text (Sheet.entriesOf channel program blocks))).leftSounding = [] := by
  refine (leftSounding_iff_balanced _).mpr fun pitch => TimedBytes.balanced_sorted fun tick => ?_
  rw [MidiFile.countP_strikes, MidiFile.countP_releases]
  refine List.countP_mono_left fun span member begun => ?_
  obtain ⟨same, reached⟩ := Bool.and_eq_true_iff.mp begun
  have after : tick < span.stop :=
    Int.lt_of_le_of_lt (of_decide_eq_true reached) (lasting span member)
  exact Bool.and_eq_true_iff.mpr ⟨same, decide_eq_true after⟩

/-- A note that does not last is left sounding if no other has begun before it and ends after it. -/
theorem FileTrack.leftSounding_of_instant {span : Span} (member : span ∈ Span.all blocks)
    (instant : span.stop ≤ span.start.tick)
    (apart : ∀ other ∈ Span.all blocks, span.start.tick < other.stop →
      span.start.tick ≤ other.start.tick) :
    (ofTimed (MidiFile.music text (Sheet.entriesOf channel program blocks))).leftSounding ≠ [] := by
  intro ended
  have balanced := (leftSounding_iff_balanced _).mp ended span.pitch
  have counts := balanced.countP_le span.started
  rw [MidiFile.countP_strikes, MidiFile.countP_releases] at counts
  have begins : (decide (span.pitch = span.pitch) && span.started.notAfter span.started) = true :=
    Bool.and_eq_true_iff.mpr ⟨decide_eq_true rfl,
      TimedBytes.notAfter_iff.mpr (.inr ⟨rfl, Nat.le_refl _⟩)⟩
  have misses : ¬(decide (span.pitch = span.pitch) && span.started.notAfter span.stopped) := by
    intro late
    have order := TimedBytes.notAfter_iff.mp (Bool.and_eq_true_iff.mp late).2
    simp only [Span.started, Span.stopped] at order
    omega
  -- Whatever ends later has begun no earlier, and the span itself has begun but does not end later.
  have covered : ∀ other ∈ Span.all blocks,
      (decide (other.pitch = span.pitch) && span.started.notAfter other.stopped) = true →
      (decide (other.pitch = span.pitch) && span.started.notAfter other.started) = true := by
    intro other inside late
    obtain ⟨same, order⟩ := Bool.and_eq_true_iff.mp late
    have later := apart other inside
    rw [TimedBytes.notAfter_iff] at order
    refine Bool.and_eq_true_iff.mpr ⟨same, TimedBytes.notAfter_iff.mpr ?_⟩
    simp only [Span.started, Span.stopped] at order ⊢
    omega
  obtain ⟨front, back, split⟩ := List.append_of_mem member
  rw [split] at covered counts
  obtain ⟨before, after⟩ := List.forall_mem_append.mp covered
  have first := List.countP_mono_left before
  have second := List.countP_mono_left (List.forall_mem_cons.mp after).2
  rw [List.countP_append, List.countP_append, List.countP_cons, List.countP_cons, if_pos begins,
    if_neg misses] at counts
  omega

end Music

section Played
variable {score : Score} {encoding : Encoding} {resolution tick : Int}

theorem Encoding.Sounds.of_mem {stop : Int} {notes : List Note} {block : Block}
    (sounds : encoding.Sounds tick stop notes block) {span : Span} (member : span ∈ block.spans) :
    span.start.tick = tick ∧ span.stop = stop ∧ notes ≠ [] := by
  obtain ⟨key, starts, rfl, struck⟩ := sounds
  obtain ⟨start, among, rfl⟩ := List.mem_map.mp member
  refine ⟨tick_of_mem struck among, rfl, fun silent => ?_⟩
  subst silent
  cases struck
  cases among

theorem Encoding.Sounds.exists_span {stop : Int} {notes : List Note} {block : Block}
    (sounds : encoding.Sounds tick stop notes block) (audible : notes ≠ []) :
    ∃ span, span ∈ block.spans := by
  obtain ⟨key, starts, rfl, struck⟩ := sounds
  cases struck with
  | nil => exact absurd rfl audible
  | cons => exact ⟨_, List.mem_cons_self⟩

theorem Part.Leaves.of_mem {part : Part} {stop : Int} {block : Block}
    (leaves : part.Leaves encoding tick stop block) {span : Span} (member : span ∈ block.spans) :
    span.start.tick = tick ∧ span.stop = stop ∧ part.sounding ≠ [] := by
  cases part with
  | tempo marked =>
    obtain ⟨value, -, rfl⟩ := leaves
    cases member
  | single note => exact Encoding.Sounds.of_mem leaves member
  | chord together => exact Encoding.Sounds.of_mem leaves member

theorem Part.Leaves.exists_span {part : Part} {stop : Int} {block : Block}
    (leaves : part.Leaves encoding tick stop block) (audible : part.sounding ≠ []) :
    ∃ span, span ∈ block.spans := by
  cases part with
  | tempo marked => exact absurd rfl audible
  | single note => exact Encoding.Sounds.exists_span leaves audible
  | chord together => exact Encoding.Sounds.exists_span leaves audible

namespace Score.Plays
variable {parts : List Part} {blocks : List Block}

theorem le_start (nonneg : 0 ≤ resolution)
    (plays : score.Plays encoding resolution tick parts blocks) :
    ∀ span ∈ Span.all blocks, tick ≤ span.start.tick := by
  induction plays with
  | done => exact fun span member => nomatch member
  | @next tick part block parts blocks leaves rest ih =>
    intro span member
    rcases List.mem_append.mp member with own | later
    · exact Int.le_of_eq (leaves.of_mem own).1.symm
    · have forward := part.length_nonneg nonneg score
      have := ih span later
      omega

theorem lasting (plays : score.Plays encoding resolution tick parts blocks)
    (long : ∀ part ∈ parts, part.sounding ≠ [] → 0 < part.length score resolution) :
    ∀ span ∈ Span.all blocks, span.start.tick < span.stop := by
  induction plays with
  | done => exact fun span member => nomatch member
  | next leaves rest ih =>
    obtain ⟨first, others⟩ := List.forall_mem_cons.mp long
    intro span member
    rcases List.mem_append.mp member with own | later
    · obtain ⟨start, stop, audible⟩ := leaves.of_mem own
      have := first audible
      omega
    · exact ih others span later

/-- A part that does not last has a note that stops when it starts, and no other note begins before
that tick and ends after it. -/
theorem exists_instant (nonneg : 0 ≤ resolution)
    (plays : score.Plays encoding resolution tick parts blocks) {part : Part}
    (member : part ∈ parts) (audible : part.sounding ≠ [])
    (instant : part.length score resolution ≤ 0) :
    ∃ span ∈ Span.all blocks, span.stop ≤ span.start.tick ∧
      ∀ other ∈ Span.all blocks, span.start.tick < other.stop →
        span.start.tick ≤ other.start.tick := by
  induction plays with
  | done => cases member
  | @next tick first block parts blocks leaves rest ih =>
    have forward := first.length_nonneg nonneg score
    rcases List.mem_cons.mp member with rfl | inside
    · obtain ⟨span, own⟩ := leaves.exists_span audible
      obtain ⟨start, stop, -⟩ := leaves.of_mem own
      refine ⟨span, List.mem_append_left _ own, by omega, fun other among _ => ?_⟩
      rcases List.mem_append.mp among with beside | later
      · exact Int.le_of_eq (start.trans (leaves.of_mem beside).1.symm)
      · have := rest.le_start nonneg other later
        omega
    · -- The part in front has ended when the one in question starts.
      obtain ⟨span, own, short, apart⟩ := ih inside
      have start := rest.le_start nonneg span own
      refine ⟨span, List.mem_append_right _ own, short, fun other among => ?_⟩
      rcases List.mem_append.mp among with before | later
      · have stop := (leaves.of_mem before).2.1
        omega
      · exact apart other later

end Score.Plays

end Played

theorem MidiFile.bytes_eq (resolution : Nat) (text : List UInt8) (entries : List Entry) :
    bytes resolution text entries = header resolution ++
      chunk "MTrk" (trackBody (conductor entries)) ++
        chunk "MTrk" (trackBody (music text entries)) := rfl

theorem MidiFile.ofTrack_eq {name : LooseText} {track : Track} {text : List UInt8}
    (encoded : Text.Latin1.encode name = .ok text)
    (bounds : 0 ≤ track.resolution ∧ track.resolution < 0x10000)
    (sound : (Sheet.ofEvents [] track.events).fault = none) :
    (ofTrack name track).result =
      .ok (bytes track.resolution.toNat text (Sheet.ofEvents [] track.events).entries) := by
  unfold ofTrack
  rw [if_pos bounds, encoded]
  simp only [sound]

theorem MidiFile.ofTrack_eq_ok {name : LooseText} {track : Track} {file text : List UInt8}
    (written : (ofTrack name track).result = .ok file)
    (encoded : Text.Latin1.encode name = .ok text) :
    (0 ≤ track.resolution ∧ track.resolution < 0x10000) ∧
      (Sheet.ofEvents [] track.events).fault = none := by
  unfold ofTrack at written
  split at written
  next bounds =>
    rw [encoded] at written
    cases sound : (Sheet.ofEvents [] track.events).fault with
    | none => exact ⟨bounds, rfl⟩
    | some fault =>
      simp only [sound] at written
      cases written
  next => cases written

/-- A file that is played to its end leaves nothing sounding exactly if everything that sounds in
the score lasts at least a tick. -/
theorem Converter.leftSounding_eq_nil_iff (converter : Converter) (score : Score) (track : Track)
    (name : LooseText) (text file : List UInt8)
    (converted : (converter.convert score).result = .ok track)
    (written : (MidiFile.ofTrack name track).result = .ok file)
    (encoded : Text.Latin1.encode name = .ok text) (fits : MidiFile.Fits text track) :
    ∃ content, Content.read? file = some content ∧
      (content.music.leftSounding = [] ↔
        ∀ part ∈ score.parts, part.sounding ≠ [] → 0 < part.length score converter.resolution) := by
  obtain ⟨channel, program, blocks, plays, rfl⟩ := exists_blocks converted
  obtain ⟨⟨nonneg, fitting⟩, sound⟩ := MidiFile.ofTrack_eq_ok written encoded
  have stated : ∀ block ∈ blocks, block.Stated := Sheet.stated_of_sound converter.encoding sound
  have bytes : MidiFile.ofTrack name (.ofBlocks converter.resolution converter.encoding channel
      program blocks) = _ := MidiFile.ofTrack_ofBlocks encoded nonneg fitting stated
  rw [bytes] at written
  cases written
  have read := Content.read?_ofBlocks stated (plays.nonneg nonneg channel program) nonneg fitting fits
  refine ⟨_, read, fun silent part member audible => ?_, fun long => ?_⟩
  · refine Int.not_le.mp fun instant => ?_
    obtain ⟨span, own, short, apart⟩ := plays.exists_instant nonneg member audible instant
    exact FileTrack.leftSounding_of_instant text own short apart silent
  · exact FileTrack.leftSounding_of_lasting text (plays.lasting long)

/-- A note that is struck again at the tick at which it ends is ended both times. -/
theorem Converter.leftSounding_restruck :
    ∃ file content, (MidiFile.ofTrack "Score" Track.restruck).result = .ok file ∧
      Content.read? file = some content ∧ content.music.leftSounding = [] := by
  have written : (MidiFile.ofTrack _ Track.restruck).result = _ :=
    MidiFile.ofTrack_eq Text.Latin1.encode_score (by decide +kernel) (by decide +kernel)
  obtain ⟨content, read, silent⟩ := leftSounding_eq_nil_iff flute Score.restruck Track.restruck
    "Score" _ _ convert_restruck written Text.Latin1.encode_score MidiFile.fits_restruck
  exact ⟨_, content, written, read, silent.mpr (by decide +kernel)⟩

def Score.instant : Score where
  items := [.note { id := 0, duration := 0 }]

def Track.instant : Track :=
  (Converter.flute.convert Score.instant).result.toOption.getD { resolution := 0 }

/-- The events of a file of a note of no duration: it is ended before it is started. -/
def TimedBytes.instant : List TimedBytes := [
  ⟨0, 0, [0xff, 0x03, 0x05, 0x53, 0x63, 0x6f, 0x72, 0x65]⟩, ⟨0, 1, [0xc0, 0x49]⟩,
  ⟨0, 2, [0x80, 0x3c, 0x40]⟩, ⟨0, 3, [0x90, 0x3c, 0x40]⟩]

def MidiFile.instant : List UInt8 :=
  header 96 ++ chunk "MTrk" endOfTrack ++
    chunk "MTrk" (TimedBytes.withDeltas 0 TimedBytes.instant ++ endOfTrack)

private theorem MidiFile.sorted_instant : (music [0x53, 0x63, 0x6f, 0x72, 0x65]
    (Sheet.ofEvents [] Track.instant.events).entries).mergeSort TimedBytes.notAfter =
      TimedBytes.instant := by
  have events : music [0x53, 0x63, 0x6f, 0x72, 0x65]
      (Sheet.ofEvents [] Track.instant.events).entries = [
        ⟨0, 0, [0xff, 0x03, 0x05, 0x53, 0x63, 0x6f, 0x72, 0x65]⟩, ⟨0, 1, [0xc0, 0x49]⟩,
        ⟨0, 3, [0x90, 0x3c, 0x40]⟩, ⟨0, 2, [0x80, 0x3c, 0x40]⟩] := by decide +kernel
  rw [events]
  simp [List.mergeSort, TimedBytes.notAfter, TimedBytes.instant]

private theorem MidiFile.ofTrack_instant :
    (ofTrack "Score" Track.instant).result = .ok instant := by
  have tempi : conductor (Sheet.ofEvents [] Track.instant.events).entries = [] := by decide +kernel
  have resolution : Track.instant.resolution.toNat = 96 := by decide +kernel
  rw [ofTrack_eq Text.Latin1.encode_score (by decide +kernel) (by decide +kernel), bytes_eq,
    trackBody, trackBody, sorted_instant, tempi, List.mergeSort_nil, resolution]
  rfl

theorem Converter.leftSounding_instant :
    ∃ content, (flute.convert Score.instant).result = .ok Track.instant ∧
      1 ≤ flute.resolution ∧ (MidiFile.ofTrack "Score" Track.instant).result = .ok MidiFile.instant ∧
      Content.read? MidiFile.instant = some content ∧ content.music.leftSounding = [(0, 60)] := by
  have read : (Content.read? MidiFile.instant).map (fun content => content.music.leftSounding) =
      some [(0, 60)] := by decide +kernel
  obtain ⟨content, holds, left⟩ := Option.map_eq_some_iff.mp read
  exact ⟨content, except_eq_ok_getD (by decide +kernel) _, by decide, MidiFile.ofTrack_instant,
    holds, left⟩

end ScorePlayback
