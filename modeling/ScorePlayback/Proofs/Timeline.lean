import Mathlib.Data.List.Pairwise
import ScorePlayback.Proofs.Blocks
import ScorePlayback.Proofs.NoteNumbers

/-! The clock of a track. No part lasts less than nothing, so the events of a track are in the order
of time as they are added, and every block starts when the parts before it have lasted. -/

namespace ScorePlayback

section Lengths
variable {resolution : Int} (nonneg : 0 ≤ resolution) (score : Score)
include nonneg

private theorem ticksOfUnits_nonneg (units : Nat) : 0 ≤ ticksOfUnits units resolution :=
  Int.ediv_nonneg (Int.mul_nonneg nonneg (Int.natCast_nonneg units)) (by decide)

theorem Note.ticks_nonneg (note : Note) : 0 ≤ note.ticks score resolution :=
  ticksOfUnits_nonneg nonneg (note.duration + note.partnerUnits score)

theorem Chord.ticks_nonneg (chord : Chord) : 0 ≤ chord.ticks score resolution := by
  unfold ticks
  cases Chord.shortest? chord.withoutTieEndings with
  | none => exact Int.le_refl 0
  | some note => exact note.ticks_nonneg nonneg score

theorem Part.length_nonneg (part : Part) : 0 ≤ part.length score resolution := by
  cases part with
  | tempo => exact Int.le_refl 0
  | single note => exact note.ticks_nonneg nonneg score
  | chord together => exact together.ticks_nonneg nonneg score

end Lengths

/-- Events in the order of time that lie between two ticks. -/
structure Event.Ordered (first last : Int) (events : List Event) : Prop where
  order : events.Pairwise fun before after => before.tick ≤ after.tick
  within : ∀ event ∈ events, first ≤ event.tick ∧ event.tick ≤ last

namespace Event.Ordered

theorem nil {first last : Int} : Event.Ordered first last [] := ⟨.nil, by simp⟩

theorem append {first middle last : Int} {before after : List Event}
    (start : Event.Ordered first middle before) (rest : Event.Ordered middle last after)
    (forward : first ≤ middle) (onward : middle ≤ last) :
    Event.Ordered first last (before ++ after) := by
  constructor
  · refine List.pairwise_append.mpr ⟨start.order, rest.order, fun one member other later => ?_⟩
    exact Int.le_trans (start.within one member).2 (rest.within other later).1
  · intro event member
    rcases List.mem_append.mp member with inside | inside
    · have := start.within event inside
      omega
    · have := rest.within event inside
      omega

theorem map {first last : Int} {items : List α} {event : α → Event}
    (inside : ∀ item ∈ items, (event item).tick = first) (forward : first ≤ last) :
    Event.Ordered first last (items.map event) := by
  constructor
  · have all : items.Pairwise fun _ _ => True := List.pairwise_of_forall fun _ _ => trivial
    refine List.pairwise_map.mpr (all.imp_of_mem fun {before after} here there _ => ?_)
    rw [inside before here, inside after there]
  · intro found member
    obtain ⟨item, here, rfl⟩ := List.mem_map.mp member
    rw [inside item here]
    exact ⟨Int.le_refl first, forward⟩

end Event.Ordered

theorem Encoding.Sounds.ordered {encoding : Encoding} {tick stop : Int} {notes : List Note}
    {block : Block} (sounds : encoding.Sounds tick stop notes block) (forward : tick ≤ stop) :
    Event.Ordered tick stop (block.events encoding) := by
  obtain ⟨key, starts, rfl, struck⟩ := sounds
  have started : Event.Ordered tick stop (starts.map Start.event) :=
    .map (fun _ member => tick_of_mem struck member) forward
  have stopped : Event.Ordered stop stop (starts.map (encoding.stopEvent stop)) :=
    .map (fun _ _ => rfl) (Int.le_refl stop)
  exact started.append stopped forward (Int.le_refl stop)

theorem Part.Leaves.ordered {encoding : Encoding} {part : Part} {tick stop : Int} {block : Block}
    (leaves : part.Leaves encoding tick stop block) (forward : tick ≤ stop) :
    Event.Ordered tick stop (block.events encoding) := by
  cases part with
  | tempo marked =>
    obtain ⟨value, -, rfl⟩ := leaves
    refine ⟨List.pairwise_singleton _ _, fun event member => ?_⟩
    obtain rfl := List.mem_singleton.mp member
    exact ⟨Int.le_refl tick, forward⟩
  | single note => exact Encoding.Sounds.ordered leaves forward
  | chord together => exact Encoding.Sounds.ordered leaves forward

namespace Score
variable {score : Score} {encoding : Encoding} {resolution tick : Int}

private theorem elapsed_nonneg (nonneg : 0 ≤ resolution) (score : Score) (parts : List Part) :
    0 ≤ score.elapsed resolution parts := by
  induction parts with
  | nil => exact Int.le_refl 0
  | cons part rest ih =>
    have := part.length_nonneg nonneg score
    rw [elapsed_cons]
    omega

theorem Plays.ordered (nonneg : 0 ≤ resolution) {parts : List Part} {blocks : List Block}
    (plays : score.Plays encoding resolution tick parts blocks) :
    Event.Ordered tick (tick + score.elapsed resolution parts)
      (blocks.flatMap (Block.events encoding)) := by
  induction plays with
  | done => exact .nil
  | @next tick part block parts _ leaves _ ih =>
    have forward := part.length_nonneg nonneg score
    have onward := score.elapsed_nonneg nonneg parts
    rw [elapsed_cons, ← Int.add_assoc, List.flatMap_cons]
    exact (leaves.ordered (by omega)).append ih (by omega) (by omega)

end Score

namespace Track

/-- An event that no other is later than decides the length of a track. -/
theorem ticks_eq_of_latest {track : Track} {event : Event} (member : event ∈ track.events)
    (latest : ∀ other ∈ track.events, other.tick ≤ event.tick) : track.ticks = event.tick := by
  unfold ticks
  split
  next empty =>
    rw [empty] at member
    cases member
  next first rest all =>
    rw [all] at member latest
    have highest : ((first :: rest).map Event.tick).max? = some event.tick := by
      refine List.max?_eq_some_iff.mpr ⟨List.mem_map_of_mem member, fun tick inside => ?_⟩
      obtain ⟨other, here, rfl⟩ := List.mem_map.mp inside
      exact latest other here
    rw [List.map_cons, List.max?_cons', List.foldl_map] at highest
    exact Option.some.inj highest

variable {track : Track}
  (order : track.events.Pairwise fun before after => before.tick ≤ after.tick)
include order

private theorem sorted_eq_events : track.sorted = track.events :=
  List.mergeSort_of_pairwise (order.imp decide_eq_true)

private theorem ticks_eq_getLast (filled : track.events ≠ []) :
    track.ticks = (track.events.getLast filled).tick := by
  refine ticks_eq_of_latest (List.getLast_mem filled) fun other member => ?_
  have : Std.Refl fun before after : Event => before.tick ≤ after.tick := ⟨fun _ => Int.le_refl _⟩
  exact order.rel_getLast member

end Track

/-- The events of a track are in the order of time. After the program change each part that is
played has its block of them, which starts when all parts before it have lasted. -/
theorem Converter.timeline_convert (converter : Converter) (score : Score) (track : Track)
    (nonneg : 0 ≤ converter.resolution) (converted : (converter.convert score).result = .ok track) :
    (track.events.Pairwise fun before after => before.tick ≤ after.tick) ∧
    track.sorted = track.events ∧
    track.events.getLast?.map Event.tick = some track.ticks ∧
    ∃ channel program, ∃ blocks : List Block,
      track.events =
        programEvent channel program :: blocks.flatMap (Block.events converter.encoding) ∧
      blocks.length = score.parts.length ∧
      ∀ index part block, score.parts[index]? = some part → blocks[index]? = some block →
        let tick := score.elapsed converter.resolution (score.parts.take index)
        part.Leaves converter.encoding tick (tick + part.length score converter.resolution)
          block := by
  obtain ⟨channel, program, blocks, plays, rfl⟩ := exists_blocks converted
  have played := plays.ordered nonneg
  have filled : (Track.ofBlocks converter.resolution converter.encoding channel program
      blocks).events ≠ [] := List.cons_ne_nil _ _
  have order : (Track.ofBlocks converter.resolution converter.encoding channel program
      blocks).events.Pairwise fun before after => before.tick ≤ after.tick :=
    List.pairwise_cons.mpr ⟨fun event member => (played.within event member).1, played.order⟩
  refine ⟨order, Track.sorted_eq_events order, ?_,
    channel, program, blocks, rfl, plays.length_eq, fun index part block here left => ?_⟩
  · rw [Track.ticks_eq_getLast order filled, List.getLast?_eq_some_getLast filled, Option.map_some]
  · have leaves := plays.leaves_getElem here left
    rwa [Int.zero_add] at leaves

def Tempo.allegro : Tempo where
  value := .whole 120
  reference := .whole 96
  positive := rfl
  referencePositive := rfl

/-- A tempo, a repeated note with a grace note before it, and a chord that is longer by a tie. -/
def Score.graced : Score where
  items := [.tempo .allegro, .bar (.line .repeatOpen),
    .note { id := 0, duration := 48, grace := [{ id := 1, letter := .d, duration := 24 }] },
    .bar (.line .repeatClose), .note (.rest 2 24),
    .chord ⟨[{ id := 3, letter := .e, beginsTie := true, tiedTo := some 5 }, { id := 4, letter := .g }]⟩,
    .note { id := 5, letter := .e, endsTie := true }]

theorem Converter.timeline_convert_graced :
    ∃ track, 0 ≤ flute.resolution ∧ (flute.convert Score.graced).result = .ok track ∧
      track.sorted = track.events ∧
      track.events.map Event.tick =
        [0, 0, 0, 24, 24, 72, 72, 96, 96, 144, 168, 168, 360, 360] ∧
      ∃ channel program, ∃ blocks : List Block, track.events =
        programEvent channel program :: blocks.flatMap (Block.events flute.encoding) ∧
        blocks.length = 7 := by
  have succeeds : ((flute.convert Score.graced).result.toOption.map fun track =>
      track.events.map Event.tick) =
        some [0, 0, 0, 24, 24, 72, 72, 96, 96, 144, 168, 168, 360, 360] := by decide +kernel
  cases converted : (flute.convert Score.graced).result with
  | error => rw [converted] at succeeds; cases succeeds
  | ok track =>
    rw [converted] at succeeds
    obtain ⟨-, sorted, -, channel, program, blocks, events, length, -⟩ :=
      timeline_convert flute Score.graced track (by decide) converted
    have parts : Score.graced.parts.length = 7 := by decide +kernel
    exact ⟨track, by decide, rfl, sorted, Option.some.inj succeeds, channel, program, blocks,
      events, length.trans parts⟩

end ScorePlayback
