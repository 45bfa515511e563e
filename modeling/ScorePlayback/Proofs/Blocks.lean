import Mathlib.Data.List.Forall2
import Mathlib.Tactic.Linarith
import ScorePlayback.Midi.Sheet
import ScorePlayback.Proofs.Rendered
import ScorePlayback.Proofs.RunningKey

/-! A track in blocks. What is played one after the other, be it a tempo, a note, a grace note or a
chord, leaves one block of events each, and a block starts when all before it has lasted. -/

namespace ScorePlayback

/-- What is played in one go. A `single` note may be a grace note or a rest. -/
inductive Part
  | tempo (tempo : Tempo)
  | single (note : Note)
  | chord (chord : Chord)

/-- A tie ending is not played for itself, and its grace notes are not played either. -/
def Item.parts : Item → List Part
  | .tempo marked => [.tempo marked]
  | .note single => if single.endsTie then [] else (single.grace ++ [single]).map .single
  | .chord together => [.chord together]
  | .bar _ => []
  | .key _ => []
  | .absent => []

namespace Part

def length (score : Score) (resolution : Int) : Part → Int
  | tempo _ => 0
  | single note => note.ticks score resolution
  | chord together => together.ticks score resolution

def sounding : Part → List Note
  | tempo _ => []
  | single note => if note.sounds then [note] else []
  | chord together => together.notes.filter Note.sounds

end Part

namespace Score

def parts (score : Score) : List Part := score.performed.flatMap Item.parts

/-- How long some parts last one after the other. -/
def elapsed (score : Score) (resolution : Int) (parts : List Part) : Int :=
  (parts.map (Part.length score resolution)).sum

variable (score : Score) (resolution : Int)

@[simp] theorem elapsed_nil : score.elapsed resolution [] = 0 := rfl

@[simp] theorem elapsed_cons (part : Part) (rest : List Part) :
    score.elapsed resolution (part :: rest) =
      part.length score resolution + score.elapsed resolution rest := by
  simp only [elapsed, List.map_cons, List.sum_cons]

theorem elapsed_append (first second : List Part) :
    score.elapsed resolution (first ++ second) =
      score.elapsed resolution first + score.elapsed resolution second := by
  simp only [elapsed, List.map_append, List.sum_append]

end Score

/-- What a part leaves on a track: a tempo, or the starts of its notes and the tick at which they
all stop. -/
inductive Block
  | tempo (tick : Int) (value : TempoValue)
  | sound (starts : List Start) (stop : Int)

def Start.event (start : Start) : Event where
  tick := start.tick
  kind := .noteOn
  message := .noteOn start.channel start.note start.velocity

namespace Encoding

def stopMessage (encoding : Encoding) (start : Start) : Message :=
  match encoding.kind with
  | .standard => .noteOff start.channel start.note 0
  | .zeroVelocity => .noteOn start.channel start.note 0

def stopEvent (encoding : Encoding) (stop : Int) (start : Start) : Event where
  tick := stop
  kind := .noteOff
  message := encoding.stopMessage start

end Encoding

/-- All notes of a block are started, and then all are ended in the same order. -/
def Block.events (encoding : Encoding) : Block → List Event
  | tempo tick value => [{ tick, kind := .tempo, message := .setTempo value }]
  | sound starts stop => starts.map Start.event ++ starts.map (encoding.stopEvent stop)

/-- A note started at a tick, with the number that a key gives it. -/
structure Encoding.Strikes (encoding : Encoding) (tick : Int) (key : Option KeySignature)
    (note : Note) (start : Start) : Prop where
  tick : start.tick = tick
  channel : encoding.channel = some (start.channel.val : Int)
  number : note.number key = start.note.val
  velocity : encoding.velocity = some (start.velocity.val : Int)

theorem Encoding.tick_of_mem {encoding : Encoding} {tick : Int} {key : Option KeySignature}
    {notes : List Note} {starts : List Start}
    (struck : List.Forall₂ (encoding.Strikes tick key) notes starts) {start : Start}
    (member : start ∈ starts) : start.tick = tick := by
  induction struck with
  | nil => cases member
  | cons strikes _ ih =>
    rcases List.mem_cons.mp member with rfl | rest
    · exact strikes.tick
    · exact ih rest

/-- The block of a sound: each of the notes is started at one tick and stopped at the other. -/
def Encoding.Sounds (encoding : Encoding) (tick stop : Int) (notes : List Note)
    (block : Block) : Prop :=
  ∃ key starts, block = .sound starts stop ∧
    List.Forall₂ (encoding.Strikes tick key) notes starts

def Part.Leaves (encoding : Encoding) (tick stop : Int) (block : Block) : Part → Prop
  | .tempo marked => ∃ value, encoding.tempo marked = .ok (.setTempo value) ∧
      block = .tempo tick value
  | .single note => encoding.Sounds tick stop (Part.single note).sounding block
  | .chord together => encoding.Sounds tick stop (Part.chord together).sounding block

/-- The blocks of parts that are played one after the other from a tick on. -/
inductive Score.Plays (score : Score) (encoding : Encoding) (resolution : Int) :
    Int → List Part → List Block → Prop
  | done {tick} : score.Plays encoding resolution tick [] []
  | next {tick part block parts blocks}
      (first : part.Leaves encoding tick (tick + part.length score resolution) block)
      (rest : score.Plays encoding resolution (tick + part.length score resolution) parts blocks) :
      score.Plays encoding resolution tick (part :: parts) (block :: blocks)

namespace Score.Plays
variable {score : Score} {encoding : Encoding} {resolution tick : Int}

theorem append {first second : List Part} {before after : List Block}
    (start : score.Plays encoding resolution tick first before)
    (rest : score.Plays encoding resolution (tick + score.elapsed resolution first) second after) :
    score.Plays encoding resolution tick (first ++ second) (before ++ after) := by
  induction start with
  | done =>
    rw [elapsed_nil, Int.add_zero] at rest
    exact rest
  | next leaves _ ih =>
    rw [elapsed_cons, ← Int.add_assoc] at rest
    exact .next leaves (ih rest)

theorem length_eq {parts : List Part} {blocks : List Block}
    (plays : score.Plays encoding resolution tick parts blocks) :
    blocks.length = parts.length := by
  induction plays with
  | done => rfl
  | next _ _ ih => rw [List.length_cons, List.length_cons, ih]

/-- A part starts when all parts before it have lasted. -/
theorem leaves_getElem {parts : List Part} {blocks : List Block}
    (plays : score.Plays encoding resolution tick parts blocks) {index : Nat} {part : Part}
    {block : Block} (here : parts[index]? = some part) (left : blocks[index]? = some block) :
    part.Leaves encoding (tick + score.elapsed resolution (parts.take index))
      (tick + score.elapsed resolution (parts.take index) + part.length score resolution)
      block := by
  induction plays generalizing index with
  | done => cases here
  | @next tick first _ _ _ leaves _ ih =>
    cases index with
    | zero =>
      cases here
      cases left
      rw [List.take_zero, elapsed_nil, Int.add_zero]
      exact leaves
    | succ index =>
      rw [List.getElem?_cons_succ] at here left
      rw [List.take_succ_cons, elapsed_cons, ← Int.add_assoc]
      exact ih here left

end Score.Plays

namespace Encoding
variable {encoding : Encoding} {note : Note} {key : Option KeySignature} {message : Message}

theorem exists_strikes (built : encoding.noteOn note key = .ok message) (tick : Int) :
    ∃ start, encoding.Strikes tick key note start ∧
      message = .noteOn start.channel start.note start.velocity := by
  obtain ⟨channel, sent, built⟩ := except_bind_eq_ok.mp built
  obtain ⟨number, data, built⟩ := except_bind_eq_ok.mp built
  obtain ⟨velocity, strength, built⟩ := except_bind_eq_ok.mp built
  cases built
  refine ⟨⟨channel, number, tick, velocity⟩, ⟨rfl, ?_, ?_, ?_⟩, rfl⟩
  · exact FieldValue.bounded_eq_ok.mp sent
  · exact Option.some.inj (FieldValue.bounded_eq_ok.mp data)
  · exact FieldValue.bounded_eq_ok.mp strength

theorem bounded_unique {bound : Nat} {value : FieldValue} {first second : Fin bound}
    (one : value = some (first.val : Int)) (other : value = some (second.val : Int)) :
    first = second := by
  have same := Option.some.inj (one.symm.trans other)
  exact Fin.ext (Int.ofNat.inj same)

private theorem Strikes.noteOff_eq {tick : Int} {start : Start}
    (strikes : encoding.Strikes tick key note start)
    (built : encoding.noteOff note key = .ok message) : message = encoding.stopMessage start := by
  have number : (some (note.number key) : FieldValue) = some (start.note.val : Int) :=
    congrArg some strikes.number
  have silent : (some 0 : FieldValue) = some ((0 : DataByte).val : Int) := rfl
  unfold noteOff at built
  unfold stopMessage
  generalize encoding.kind = kind at built ⊢
  cases kind
  all_goals
    obtain ⟨channel, sent, built⟩ := except_bind_eq_ok.mp built
    obtain ⟨data, read, built⟩ := except_bind_eq_ok.mp built
    obtain ⟨velocity, zero, built⟩ := except_bind_eq_ok.mp built
    cases built
    cases bounded_unique (FieldValue.bounded_eq_ok.mp sent) strikes.channel
    cases bounded_unique (FieldValue.bounded_eq_ok.mp read) number
    cases bounded_unique (FieldValue.bounded_eq_ok.mp zero) silent
    rfl

theorem exists_setTempo {marked : Tempo} (built : encoding.tempo marked = .ok message) :
    ∃ value, message = .setTempo value := by
  obtain ⟨microseconds, -, built⟩ := except_bind_eq_ok.mp built
  obtain ⟨value, -, built⟩ := except_bind_eq_ok.mp (except_mapError_eq_ok.mp built)
  cases built
  exact ⟨value, rfl⟩

private theorem events_noteOns {tick : Int} {notes : List Note}
    (sound : (Rendering.join (notes.map (encoding.sounds.renderNoteOn tick key))).fault = none) :
    ∃ starts, List.Forall₂ (encoding.Strikes tick key) notes starts ∧
      (Rendering.join (notes.map (encoding.sounds.renderNoteOn tick key))).events =
        starts.map Start.event := by
  induction notes with
  | nil => exact ⟨[], .nil, rfl⟩
  | cons note rest ih =>
    obtain ⟨first, more, events⟩ := Rendering.append_eq_none sound
    obtain ⟨message, built, single⟩ := Rendering.single_eq_none first
    obtain ⟨start, strikes, rfl⟩ := exists_strikes (except_mapError_eq_ok.mp built) tick
    obtain ⟨starts, struck, later⟩ := ih more
    refine ⟨start :: starts, .cons strikes struck, ?_⟩
    rw [List.map_cons, Rendering.join, events, later, List.map_cons, renderNoteOn_sounds, single,
      List.singleton_append, ← strikes.tick]
    rfl

private theorem events_noteOffs {tick stop : Int} {notes : List Note} {starts : List Start}
    (struck : List.Forall₂ (encoding.Strikes tick key) notes starts)
    (sound : (Rendering.join (notes.map (encoding.sounds.renderNoteOff stop key))).fault = none) :
    (Rendering.join (notes.map (encoding.sounds.renderNoteOff stop key))).events =
      starts.map (encoding.stopEvent stop) := by
  induction struck with
  | nil => rfl
  | cons strikes _ ih =>
    obtain ⟨first, more, events⟩ := Rendering.append_eq_none sound
    obtain ⟨message, built, single⟩ := Rendering.single_eq_none first
    obtain rfl := strikes.noteOff_eq (except_mapError_eq_ok.mp built)
    rw [List.map_cons, Rendering.join, events, ih more, List.map_cons, renderNoteOff_sounds, single,
      List.singleton_append]
    rfl

theorem render_singleton (encoding : Encoding) (cue : Cue) :
    encoding.sounds.render [cue] = encoding.sounds.renderCue cue := Rendering.append_empty _

theorem events_renderSound {tick duration : Int} {notes : List Note}
    (sound : (encoding.sounds.renderSound tick duration notes key).fault = none) :
    ∃ block, encoding.Sounds tick (tick + duration) notes block ∧
      (encoding.sounds.renderSound tick duration notes key).events = block.events encoding := by
  obtain ⟨starting, ending, events⟩ := Rendering.append_eq_none sound
  obtain ⟨starts, struck, started⟩ := events_noteOns starting
  refine ⟨.sound starts (tick + duration), ⟨key, starts, rfl, struck⟩, ?_⟩
  rw [SoundEncoding.renderSound, events, started, events_noteOffs struck ending]
  rfl

end Encoding

namespace Playhead
variable {encoding : Encoding} (score : Score) (resolution : Int)

theorem clock_playSingle (head : Playhead) (note : Note) :
    (head.playSingle score resolution note).1.clock = head.clock + note.ticks score resolution := by
  unfold playSingle
  split <;> rfl

private theorem clock_playEach (head : Playhead) (notes : List Note) :
    (head.playEach score resolution notes).1.clock =
      head.clock + score.elapsed resolution (notes.map .single) := by
  induction notes generalizing head with
  | nil => exact (Int.add_zero _).symm
  | cons note rest ih =>
    simp only [playEach, ih, clock_playSingle, List.map_cons, Score.elapsed_cons, Part.length,
      Int.add_assoc]

theorem clock_performItem (head : Playhead) (item : Item) :
    (head.performItem score resolution item).1.clock =
      head.clock + score.elapsed resolution item.parts := by
  cases item with
  | note single =>
    simp only [performItem, playItem, playNote, Item.parts]
    split
    next => exact (Int.add_zero _).symm
    next => exact clock_playEach score resolution head _
  | chord together =>
    simp only [Item.parts, Score.elapsed_cons, Score.elapsed_nil, Int.add_zero]
    rfl
  | tempo marked =>
    simp only [Item.parts, Score.elapsed_cons, Score.elapsed_nil, Int.add_zero]
    exact (Int.add_zero _).symm
  | bar | key | absent => exact (Int.add_zero _).symm

theorem clock_after (head : Playhead) (items : List Item) :
    (head.after score resolution items).clock =
      head.clock + score.elapsed resolution (items.flatMap Item.parts) := by
  induction items generalizing head with
  | nil => exact (Int.add_zero _).symm
  | cons item rest ih =>
    rw [after, List.foldl_cons, ← after, ih, clock_performItem, List.flatMap_cons,
      Score.elapsed_append, Int.add_assoc]

private theorem events_playSingle (head : Playhead) (note : Note)
    (sound : (encoding.sounds.render (head.playSingle score resolution note).2).fault = none) :
    ∃ block, (Part.single note).Leaves encoding head.clock
        (head.clock + (Part.single note).length score resolution) block ∧
      (encoding.sounds.render (head.playSingle score resolution note).2).events =
        block.events encoding := by
  by_cases sounds : note.sounds = true
  · simp only [playSingle, Part.Leaves, Part.sounding, sounds, if_true,
      Encoding.render_singleton] at sound ⊢
    exact Encoding.events_renderSound sound
  · simp only [playSingle, Part.Leaves, Part.sounding, sounds, if_false, Bool.false_eq_true]
    exact ⟨.sound [] _, ⟨none, [], rfl, .nil⟩, rfl⟩

private theorem events_playEach (head : Playhead) (notes : List Note)
    (sound : (encoding.sounds.render (head.playEach score resolution notes).2).fault = none) :
    ∃ blocks, score.Plays encoding resolution head.clock (notes.map .single) blocks ∧
      (encoding.sounds.render (head.playEach score resolution notes).2).events =
        blocks.flatMap (Block.events encoding) := by
  induction notes generalizing head with
  | nil => exact ⟨[], .done, rfl⟩
  | cons note rest ih =>
    simp only [playEach, SoundEncoding.render_append] at sound ⊢
    obtain ⟨first, more, events⟩ := Rendering.append_eq_none sound
    obtain ⟨block, leaves, single⟩ := events_playSingle score resolution head note first
    obtain ⟨blocks, plays, later⟩ := ih _ more
    rw [clock_playSingle] at plays
    refine ⟨block :: blocks, .next leaves plays, ?_⟩
    rw [events, single, later, List.flatMap_cons]

private theorem events_performItem (head : Playhead) (item : Item)
    (sound : (encoding.sounds.render (head.performItem score resolution item).2).fault = none) :
    ∃ blocks, score.Plays encoding resolution head.clock item.parts blocks ∧
      (encoding.sounds.render (head.performItem score resolution item).2).events =
        blocks.flatMap (Block.events encoding) := by
  cases item with
  | note single =>
    simp only [performItem, playItem, playNote, Item.parts] at sound ⊢
    by_cases ends : single.endsTie = true
    · simp only [ends, if_true]
      exact ⟨[], .done, rfl⟩
    · simp only [ends, Bool.false_eq_true, if_false] at sound ⊢
      exact events_playEach score resolution head _ sound
  | chord together =>
    simp only [performItem, playItem, playChord, Encoding.render_singleton] at sound ⊢
    obtain ⟨block, sounds, events⟩ := Encoding.events_renderSound sound
    exact ⟨[block], .next sounds .done, by rw [List.flatMap_singleton]; exact events⟩
  | tempo marked =>
    simp only [performItem, playItem, Encoding.render_singleton] at sound ⊢
    obtain ⟨message, built, events⟩ := Rendering.single_eq_none sound
    obtain ⟨value, rfl⟩ := Encoding.exists_setTempo built
    exact ⟨[.tempo head.clock value], .next ⟨value, built, rfl⟩ .done, events⟩
  | bar | key | absent => exact ⟨[], .done, rfl⟩

private theorem events_perform (head : Playhead) (items : List Item)
    (sound : (encoding.sounds.render (head.perform score resolution items)).fault = none) :
    ∃ blocks, score.Plays encoding resolution head.clock (items.flatMap Item.parts) blocks ∧
      (encoding.sounds.render (head.perform score resolution items)).events =
        blocks.flatMap (Block.events encoding) := by
  induction items generalizing head with
  | nil => exact ⟨[], .done, rfl⟩
  | cons item rest ih =>
    simp only [perform, SoundEncoding.render_append] at sound ⊢
    obtain ⟨first, more, events⟩ := Rendering.append_eq_none sound
    obtain ⟨before, start, played⟩ := events_performItem score resolution head item first
    obtain ⟨after, onward, later⟩ := ih _ more
    rw [clock_performItem] at onward
    refine ⟨before ++ after, start.append onward, ?_⟩
    rw [events, played, later, List.flatMap_append]

end Playhead

def programEvent (channel : Channel) (program : DataByte) : Event where
  tick := 0
  kind := .programChange
  message := .programChange channel program

def Track.ofBlocks (resolution : Int) (encoding : Encoding) (channel : Channel)
    (program : DataByte) (blocks : List Block) : Track :=
  ⟨resolution, programEvent channel program :: blocks.flatMap (Block.events encoding)⟩

theorem Converter.events_renderProgram {converter : Converter} {instrument : Instrument}
    (sound : (converter.sounds.renderProgram 0 instrument).fault = none) :
    ∃ channel program, (converter.sounds.renderProgram 0 instrument).events =
      [programEvent channel program] := by
  obtain ⟨message, built, events⟩ := Rendering.single_eq_none sound
  obtain ⟨channel, -, built⟩ := except_bind_eq_ok.mp (except_mapError_eq_ok.mp built)
  obtain ⟨program, -, built⟩ := except_bind_eq_ok.mp built
  cases built
  exact ⟨channel, program, events⟩

/-- A converted track is a program change followed by the blocks of what is played. -/
theorem Converter.exists_blocks {converter : Converter} {score : Score} {track : Track}
    (converted : (converter.convert score).result = .ok track) :
    ∃ channel program blocks,
      score.Plays converter.encoding converter.resolution 0 score.parts blocks ∧
      track = .ofBlocks converter.resolution converter.encoding channel program blocks := by
  obtain ⟨instrument, records, -, sound, rfl⟩ := convert_eq_ok converted
  rw [rendering_eq] at sound ⊢
  obtain ⟨start, rest, events⟩ := Rendering.append_eq_none sound
  obtain ⟨channel, program, begun⟩ := events_renderProgram start
  have heard := converter.sounds.render_heard (score.script converter.resolution)
  have played := heard.fault.symm.trans rest
  rw [Score.heard_script] at played
  obtain ⟨blocks, plays, later⟩ :=
    Playhead.events_perform score converter.resolution {} score.performed played
  refine ⟨channel, program, blocks, plays, ?_⟩
  rw [events, begun, heard.events, Score.heard_script, sounds_eq, later, List.singleton_append]
  rfl

end ScorePlayback
