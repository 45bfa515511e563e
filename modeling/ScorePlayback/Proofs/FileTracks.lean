import ScorePlayback.Proofs.Reading

/-! Tracks of a file read back. The events of a track come in the order in which they were sorted,
each at its tick, and the ticks between them add up to the latest one. -/

namespace ScorePlayback

namespace TimedBytes

def event (timed : TimedBytes) : FileEvent :=
  ((FileEvent.reader timed.bytes).map Prod.fst).getD .endOfTrack

def moment (timed : TimedBytes) : FileMoment := ⟨timed.tick, timed.event⟩

/-- The bytes are those of an event that does not end its track. -/
structure Readable (timed : TimedBytes) : Prop where
  reads : FileEvent.reader.Reads timed.bytes timed.event
  continues : timed.event ≠ .endOfTrack

theorem event_eq_of_reads (tick : Int) (rank : Nat) {bytes : List UInt8} {event : FileEvent}
    (reads : FileEvent.reader.Reads bytes event) :
    (TimedBytes.mk tick rank bytes).event = event := by
  have all := reads []
  rw [List.append_nil] at all
  rw [TimedBytes.event, all]
  rfl

theorem Readable.of_reads {timed : TimedBytes} {event : FileEvent}
    (reads : FileEvent.reader.Reads timed.bytes event) (continues : event ≠ .endOfTrack) :
    timed.Readable := by
  have same := event_eq_of_reads timed.tick timed.rank reads
  exact ⟨same.symm ▸ reads, same.symm ▸ continues⟩

/-- The events of a track as they are read. The end comes right after the last of them. -/
def deltasFrom (now : Int) : List TimedBytes → List (Nat × FileEvent)
  | [] => [(0, .endOfTrack)]
  | timed :: rest => ((timed.tick - now).toNat, timed.event) :: deltasFrom timed.tick rest

def lastTick (now : Int) : List TimedBytes → Int
  | [] => now
  | timed :: rest => lastTick timed.tick rest

/-- Events in the order of time, none of them in the past. -/
def InTime (now : Int) (events : List TimedBytes) : Prop :=
  (now :: events.map tick).Pairwise (· ≤ ·)

section Order
variable {now : Int} {timed : TimedBytes} {rest events : List TimedBytes}

theorem InTime.le (order : InTime now (timed :: rest)) : now ≤ timed.tick :=
  List.rel_of_pairwise_cons order List.mem_cons_self

theorem InTime.tail (order : InTime now (timed :: rest)) : InTime timed.tick rest :=
  (List.pairwise_cons.mp order).2

theorem notAfter_iff {first second : TimedBytes} :
    first.notAfter second ↔
      first.tick < second.tick ∨ (first.tick = second.tick ∧ first.rank ≤ second.rank) := by
  simp only [notAfter, Bool.or_eq_true, Bool.and_eq_true, decide_eq_true_eq]

theorem notAfter_trans {first second third : TimedBytes} (before : first.notAfter second)
    (after : second.notAfter third) : first.notAfter third := by
  rw [notAfter_iff] at before after ⊢
  omega

theorem tick_le_of_notAfter {first second : TimedBytes} (before : first.notAfter second) :
    first.tick ≤ second.tick := by
  rw [notAfter_iff] at before
  omega

theorem pairwise_sorted (events : List TimedBytes) :
    (events.mergeSort notAfter).Pairwise fun first second => first.notAfter second := by
  have total : ∀ first second : TimedBytes, first.notAfter second || second.notAfter first := by
    intro first second
    rw [Bool.or_eq_true, notAfter_iff, notAfter_iff]
    omega
  refine List.pairwise_mergeSort ?_ total events
  exact fun _ _ _ => notAfter_trans

theorem InTime.of_sorted (events : List TimedBytes) (later : ∀ timed ∈ events, now ≤ timed.tick) :
    InTime now (events.mergeSort notAfter) := by
  refine List.pairwise_cons.mpr ⟨fun tick member => ?_,
    List.pairwise_map.mpr ((pairwise_sorted events).imp tick_le_of_notAfter)⟩
  obtain ⟨timed, inside, rfl⟩ := List.mem_map.mp member
  exact later timed (List.mem_mergeSort.mp inside)

theorem lastTick_mem (now : Int) (events : List TimedBytes) :
    lastTick now events = now ∨ ∃ timed ∈ events, timed.tick = lastTick now events := by
  induction events generalizing now with
  | nil => exact .inl rfl
  | cons timed rest ih =>
    refine .inr ?_
    rcases ih timed.tick with same | ⟨last, member, same⟩
    · exact ⟨timed, List.mem_cons_self, same.symm⟩
    · exact ⟨last, List.mem_cons_of_mem _ member, same⟩

theorem InTime.le_lastTick (order : InTime now events) :
    now ≤ lastTick now events ∧ ∀ timed ∈ events, timed.tick ≤ lastTick now events := by
  induction events generalizing now with
  | nil => exact ⟨Int.le_refl now, fun timed member => nomatch member⟩
  | cons timed rest ih =>
    obtain ⟨forward, later⟩ := ih order.tail
    exact ⟨Int.le_trans order.le forward, List.forall_mem_cons.mpr ⟨forward, later⟩⟩

theorem delta_eq (order : InTime now (timed :: rest)) :
    now + ((timed.tick - now).toNat : Int) = timed.tick := by
  have forward := order.le
  omega

theorem momentsFrom_deltasFrom (order : InTime now events) :
    FileTrack.momentsFrom now (deltasFrom now events) =
      events.map moment ++ [⟨lastTick now events, .endOfTrack⟩] := by
  induction events generalizing now with
  | nil =>
    rw [deltasFrom, FileTrack.momentsFrom, Int.natCast_zero, Int.add_zero]
    rfl
  | cons timed rest ih =>
    rw [deltasFrom, FileTrack.momentsFrom, delta_eq order, ih order.tail]
    rfl

theorem sum_deltasFrom (order : InTime now events) :
    now + (((deltasFrom now events).map Prod.fst).sum : Nat) = lastTick now events := by
  induction events generalizing now with
  | nil => exact Int.add_zero now
  | cons timed rest ih =>
    have delta := delta_eq order
    have onward := ih order.tail
    rw [deltasFrom, List.map_cons, List.sum_cons, lastTick]
    omega

theorem ofInt_delta (order : InTime now (timed :: rest)) :
    Quantity.ofInt (timed.tick - now) = Quantity.ofNat (timed.tick - now).toNat := by
  have forward := order.le
  generalize difference : timed.tick - now = delta
  cases delta with
  | ofNat value => rfl
  | negSucc => omega

private theorem length_le_withDeltas (order : InTime now events) :
    events.length ≤ (withDeltas now events).length := by
  induction events generalizing now with
  | nil => exact Nat.le_refl 0
  | cons timed rest ih =>
    have onward := ih order.tail
    simp only [withDeltas, ofInt_delta order, Quantity.ofNat, List.length_append, List.length_cons,
      List.length_nil]
    omega

private theorem reads_withDeltas (readable : ∀ timed ∈ events, timed.Readable)
    (order : InTime now events)
    {limit : Nat} (room : events.length < limit) :
    (FileTrack.eventsReader limit).Reads (withDeltas now events ++ MidiFile.endOfTrack)
      (deltasFrom now events) := by
  induction events generalizing now limit with
  | nil =>
    obtain ⟨limit, rfl⟩ := Nat.exists_eq_add_one_of_ne_zero (Nat.ne_of_gt room)
    exact (Reader.reads_quantity 0).bind (FileEvent.reads_endOfTrack.returns (Reader.reads_pure _))
  | cons timed rest ih =>
    obtain ⟨limit, rfl⟩ := Nat.exists_eq_add_one_of_ne_zero (Nat.ne_zero_of_lt room)
    obtain ⟨reads, continues⟩ := readable timed List.mem_cons_self
    have onward := ih (fun other member => readable other (List.mem_cons_of_mem _ member))
      order.tail (Nat.lt_of_succ_lt_succ room)
    rw [withDeltas, ofInt_delta order, List.append_assoc, List.append_assoc]
    refine (Reader.reads_quantity _).bind (reads.bind ?_)
    rw [if_neg continues]
    exact onward.returns (Reader.reads_pure _)

end Order

end TimedBytes

namespace MidiFile

def trackBody (events : List TimedBytes) : List UInt8 :=
  TimedBytes.withDeltas 0 (events.mergeSort TimedBytes.notAfter) ++ endOfTrack

end MidiFile

namespace FileTrack
variable {events : List TimedBytes}

def ofTimed (events : List TimedBytes) : FileTrack :=
  ⟨TimedBytes.deltasFrom 0 (events.mergeSort TimedBytes.notAfter)⟩

theorem reads_ofTimed (readable : ∀ timed ∈ events, timed.Readable)
    (nonneg : ∀ timed ∈ events, 0 ≤ timed.tick)
    (fits : (MidiFile.trackBody events).length < 0x100000000) :
    reader.Reads (MidiFile.trackChunk events) (ofTimed events) := by
  have order := TimedBytes.InTime.of_sorted events nonneg
  have room : (events.mergeSort TimedBytes.notAfter).length <
      (MidiFile.trackBody events).length := by
    have bounded := TimedBytes.length_le_withDeltas order
    simp only [MidiFile.trackBody, MidiFile.endOfTrack, List.length_append, List.length_cons]
    omega
  have body := TimedBytes.reads_withDeltas
    (fun timed member => readable timed (List.mem_mergeSort.mp member)) order room
  exact (Reader.reads_chunk "MTrk" fits).returns
    ((Reader.reads_ofOption body.whole).returns (Reader.reads_pure _))

theorem moments_ofTimed (nonneg : ∀ timed ∈ events, 0 ≤ timed.tick) :
    (ofTimed events).moments = (events.mergeSort TimedBytes.notAfter).map TimedBytes.moment ++
      [⟨TimedBytes.lastTick 0 (events.mergeSort TimedBytes.notAfter), .endOfTrack⟩] :=
  TimedBytes.momentsFrom_deltasFrom (.of_sorted events nonneg)

/-- A track lasts until the tick of its latest event. -/
theorem exists_latest (filled : events ≠ []) (nonneg : ∀ timed ∈ events, 0 ≤ timed.tick) :
    ∃ timed ∈ events, ((ofTimed events).length : Int) = timed.tick ∧
      ∀ other ∈ events, other.tick ≤ timed.tick := by
  have order := TimedBytes.InTime.of_sorted events nonneg
  have sum := TimedBytes.sum_deltasFrom order
  rw [Int.zero_add] at sum
  have greatest : ∀ other ∈ events, other.tick ≤ (ofTimed events).length := fun other member =>
    sum ▸ order.le_lastTick.2 other (List.mem_mergeSort.mpr member)
  rcases TimedBytes.lastTick_mem 0 (events.mergeSort TimedBytes.notAfter) with
    zero | ⟨last, inside, same⟩
  · obtain ⟨timed, member⟩ := List.exists_mem_of_ne_nil events filled
    have length : ((ofTimed events).length : Int) = timed.tick :=
      Int.le_antisymm (Int.le_trans (Int.le_of_eq (sum.trans zero)) (nonneg timed member))
        (greatest timed member)
    exact ⟨timed, member, length, length ▸ greatest⟩
  · have length : ((ofTimed events).length : Int) = last.tick := sum.trans same.symm
    exact ⟨last, List.mem_mergeSort.mp inside, length, length ▸ greatest⟩

end FileTrack

namespace MidiFile

theorem moment_tempoEvent {entry : Entry} {timed : TimedBytes}
    (left : tempoEvent? entry = some timed) :
    timed.Readable ∧ ∃ tick microseconds value, entry = .tempo tick microseconds ∧
      timed.moment = ⟨tick, .message (.setTempo value)⟩ := by
  cases entry with
  | tempo tick microseconds =>
    cases left
    have reads := FileEvent.reads_setTempo microseconds.toNat
    have said := TimedBytes.event_eq_of_reads tick 3 reads
    exact ⟨.of_reads reads nofun, tick, microseconds, _, rfl, congrArg (FileMoment.mk tick) said⟩
  | program | note | strayStop => cases left

theorem readable_nameEvent (name : List UInt8) : (nameEvent name).Readable :=
  .of_reads (FileEvent.reads_trackName name) nofun

theorem event_nameEvent (name : List UInt8) : (nameEvent name).event = .trackName name :=
  TimedBytes.event_eq_of_reads 0 0 (FileEvent.reads_trackName name)

theorem event_program (tick : Int) (channel : Channel) (program : DataByte) :
    (TimedBytes.mk tick 1 [status 0xc0 channel, dataByte program]).event =
      .message (.programChange channel program) :=
  TimedBytes.event_eq_of_reads tick 1 (FileEvent.reads_programChange channel program)

theorem event_start (start : Start) :
    (TimedBytes.mk start.tick 3
      [status 0x90 start.channel, dataByte start.note, dataByte start.velocity]).event =
        .message (.noteOn start.channel start.note start.velocity) :=
  TimedBytes.event_eq_of_reads start.tick 3 (FileEvent.reads_noteOn _ _ _)

theorem event_stop (start : Start) (stop : Int) :
    (TimedBytes.mk stop 2
      [status 0x80 start.channel, dataByte start.note, dataByte start.velocity]).event =
        .message (.noteOff start.channel start.note start.velocity) :=
  TimedBytes.event_eq_of_reads stop 2 (FileEvent.reads_noteOff _ _ _)

private theorem readable_musicEvents {entry : Entry} {timed : TimedBytes}
    (member : timed ∈ musicEvents entry) : timed.Readable := by
  cases entry with
  | program tick channel program =>
    obtain rfl := List.mem_singleton.mp member
    exact .of_reads (FileEvent.reads_programChange channel program) nofun
  | note start stop =>
    rcases List.mem_cons.mp member with rfl | member
    · exact .of_reads (FileEvent.reads_noteOn start.channel start.note start.velocity) nofun
    · obtain rfl := List.mem_singleton.mp member
      exact .of_reads (FileEvent.reads_noteOff start.channel start.note start.velocity) nofun
  | tempo | strayStop => cases member

/-- The events of the track of the tempi. -/
def conductor (entries : List Entry) : List TimedBytes := entries.filterMap tempoEvent?

/-- The events of the track of the notes. -/
def music (name : List UInt8) (entries : List Entry) : List TimedBytes :=
  nameEvent name :: entries.flatMap musicEvents

private theorem readable_conductor {entries : List Entry} {timed : TimedBytes}
    (member : timed ∈ conductor entries) : timed.Readable := by
  obtain ⟨entry, -, left⟩ := List.mem_filterMap.mp member
  exact (moment_tempoEvent left).1

private theorem readable_music {name : List UInt8} {entries : List Entry} {timed : TimedBytes}
    (member : timed ∈ music name entries) : timed.Readable := by
  rcases List.mem_cons.mp member with rfl | inside
  · exact readable_nameEvent name
  · obtain ⟨entry, -, left⟩ := List.mem_flatMap.mp inside
    exact readable_musicEvents left

end MidiFile

namespace Content

private theorem reads_header {resolution : Nat} (fits : resolution < 0x10000) :
    headerReader.Reads (MidiFile.header resolution) resolution := by
  have fields : fieldsReader.Reads (MidiFile.bigEndian 2 1 ++ (MidiFile.bigEndian 2 2 ++
      MidiFile.bigEndian 2 resolution)) resolution := by
    refine (Reader.reads_number (by decide)).bind ((Reader.reads_number (by decide)).bind ?_)
    exact (Reader.reads_number fits).returns (Reader.reads_pure _)
  rw [← List.append_assoc] at fields
  have short : (MidiFile.bigEndian 2 1 ++ MidiFile.bigEndian 2 2 ++
      MidiFile.bigEndian 2 resolution).length < 0x100000000 := by
    simp only [List.length_append, Reader.length_bigEndian]
    decide
  exact (Reader.reads_chunk "MThd" short).returns (Reader.reads_ofOption fields.whole)

/-- A file is read back as its resolution and its two tracks. -/
theorem read?_bytes {resolution : Nat} (fits : resolution < 0x10000) {name : List UInt8}
    {entries : List Entry} (early : ∀ timed ∈ MidiFile.conductor entries, 0 ≤ timed.tick)
    (first : (MidiFile.trackBody (MidiFile.conductor entries)).length < 0x100000000)
    (late : ∀ timed ∈ MidiFile.music name entries, 0 ≤ timed.tick)
    (second : (MidiFile.trackBody (MidiFile.music name entries)).length < 0x100000000) :
    read? (MidiFile.bytes resolution name entries) = some {
      resolution
      conductor := .ofTimed (MidiFile.conductor entries)
      music := .ofTimed (MidiFile.music name entries) } := by
  have conducted := FileTrack.reads_ofTimed (fun _ => MidiFile.readable_conductor) early first
  have played := FileTrack.reads_ofTimed (fun _ => MidiFile.readable_music) late second
  rw [MidiFile.bytes, List.append_assoc]
  refine Reader.Reads.whole ((reads_header fits).bind (conducted.bind (played.returns ?_)))
  exact Reader.reads_pure _

end Content

end ScorePlayback
