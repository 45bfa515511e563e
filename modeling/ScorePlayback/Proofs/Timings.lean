import ScorePlayback.Proofs.Blocks

/-! When the events of a track are due. What is played and how long it lasts decides their ticks and
kinds, whatever the pitches are. -/

namespace ScorePlayback

/-- The tick and the kind of an event. -/
def Event.timing (event : Event) : Int × EventKind := (event.tick, event.kind)

/-- All notes of a part start at one tick and stop at another. -/
def Part.timings (start stop : Int) : Part → List (Int × EventKind)
  | .tempo _ => [(start, .tempo)]
  | part =>
    .replicate part.sounding.length (start, .noteOn) ++
      .replicate part.sounding.length (stop, .noteOff)

/-- The timings of parts that are played one after the other from a tick on. -/
def Score.timings (score : Score) (resolution tick : Int) : List Part → List (Int × EventKind)
  | [] => []
  | part :: rest =>
    let stop := tick + part.length score resolution
    part.timings tick stop ++ score.timings resolution stop rest

theorem Encoding.Sounds.timings {encoding : Encoding} {tick stop : Int} {notes : List Note}
    {block : Block} (sounds : encoding.Sounds tick stop notes block) :
    (block.events encoding).map Event.timing =
      .replicate notes.length (tick, .noteOn) ++ .replicate notes.length (stop, .noteOff) := by
  obtain ⟨key, starts, rfl, struck⟩ := sounds
  have started : (starts.map Start.event).map Event.timing =
      .replicate starts.length (tick, .noteOn) := by
    rw [List.map_map]
    apply List.map_eq_replicate_iff.mpr
    intro start member
    exact congrArg (·, EventKind.noteOn) (tick_of_mem struck member)
  have stopped : (starts.map (encoding.stopEvent stop)).map Event.timing =
      .replicate starts.length (stop, .noteOff) := by
    rw [List.map_map]
    apply List.map_eq_replicate_iff.mpr
    intro start member
    rfl
  rw [Block.events, List.map_append, started, stopped, struck.length_eq]

theorem Part.Leaves.timings {encoding : Encoding} {part : Part} {tick stop : Int} {block : Block}
    (leaves : part.Leaves encoding tick stop block) :
    (block.events encoding).map Event.timing = part.timings tick stop := by
  cases part with
  | tempo marked =>
    obtain ⟨value, -, rfl⟩ := leaves
    rfl
  | single note => exact Encoding.Sounds.timings leaves
  | chord together => exact Encoding.Sounds.timings leaves

theorem Score.Plays.timings {score : Score} {encoding : Encoding} {resolution tick : Int}
    {parts : List Part} {blocks : List Block}
    (plays : score.Plays encoding resolution tick parts blocks) :
    (blocks.flatMap (Block.events encoding)).map Event.timing =
      score.timings resolution tick parts := by
  induction plays with
  | done => rfl
  | next leaves _ ih => rw [List.flatMap_cons, List.map_append, leaves.timings, ih, Score.timings]

/-- The timings of a converted track, from the program change on. -/
theorem Converter.timings_convert {converter : Converter} {score : Score} {track : Track}
    (converted : (converter.convert score).result = .ok track) :
    track.events.map Event.timing =
      (0, .programChange) :: score.timings converter.resolution 0 score.parts := by
  obtain ⟨channel, program, blocks, plays, rfl⟩ := exists_blocks converted
  rw [Track.ofBlocks, List.map_cons, plays.timings]
  rfl

end ScorePlayback
