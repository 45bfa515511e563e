import Mathlib.Algebra.BigOperators.Fin
import ScorePlayback.Proofs.Blocks
import ScorePlayback.Proofs.NoteNumbers
import ScorePlayback.Proofs.TieLinks
import ScorePlayback.Proofs.WrittenOut

/-! Time over ties. A note that ends a tie takes no time of its own: the note that is tied to it
lasts longer instead. Only one tie is followed, so a note that is tied to the end of another tie is
not counted. -/

namespace ScorePlayback

namespace Score

/-- Whether a note is tied to one that ends a tie itself. -/
def tiedOn (score : Score) (note : Note) : Bool :=
  score.notes.any fun first => first.endsTie && first.tiedTo == some note.id

/-- The units of a note that are counted. -/
def countedUnits (score : Score) (note : Note) : Nat :=
  if score.tiedOn note then 0 else note.duration

/-- The units that a note lasts, with what is tied to it. -/
def playedUnits (score : Score) (note : Note) : Nat :=
  if note.endsTie then 0 else note.duration + note.partnerUnits score

end Score

section Paired
variable {ι : Type} [Fintype ι] (leads : ι → ι → Prop) [DecidableRel leads]
  (ends : ι → Prop) [DecidablePred ends] (units : ι → Nat)
  (unique : ∀ first other second, leads first second → leads other second → first = other)
  (ended : ∀ first second, leads first second → ends second)
  (matched : ∀ second, ends second → ∃ first, leads first second)
include unique ended matched

/-- What the notes that are played add for an end: all of it, unless an end leads to it. -/
private theorem sum_of_end (second : ι) :
    (if ends second then 0 else units second) +
        (∑ first, if ¬ ends first ∧ leads first second then units second else 0) =
      if ∃ first, ends first ∧ leads first second then 0 else units second := by
  by_cases ending : ends second
  · obtain ⟨start, here⟩ := matched second ending
    have only : (∑ first, if ¬ ends first ∧ leads first second then units second else 0) =
        if ¬ ends start ∧ leads start second then units second else 0 := by
      refine Finset.sum_eq_single start (fun other _ differs => ?_) fun absent => ?_
      · exact if_neg fun both => differs (unique other start second both.2 here)
      · exact absurd (Finset.mem_univ start) absent
    have same : (∃ first, ends first ∧ leads first second) ↔ ends start := by
      constructor
      · rintro ⟨first, closes, there⟩
        rwa [unique start first second here there]
      · exact fun closes => ⟨start, closes, here⟩
    rw [only, if_pos ending, if_congr same rfl rfl]
    by_cases closes : ends start
    · simp [closes]
    · simp [closes, here]
  · have nobody (first : ι) : ¬ leads first second := fun there => ending (ended first second there)
    simp [ending, nobody]

/-- Each end is counted once, at the note that leads to it. -/
theorem sum_paired :
    (∑ first, if ends first then 0
      else units first + ∑ second, if leads first second then units second else 0) =
      ∑ second, if ∃ first, ends first ∧ leads first second then 0 else units second := by
  have split (first : ι) : (if ends first then 0
      else units first + ∑ second, if leads first second then units second else 0) =
      (if ends first then 0 else units first) +
        ∑ second, if ¬ ends first ∧ leads first second then units second else 0 := by
    by_cases closes : ends first
    · simp [closes]
    · simp [closes]
  calc
    _ = ∑ first, ((if ends first then 0 else units first) +
          ∑ second, if ¬ ends first ∧ leads first second then units second else 0) :=
      Finset.sum_congr rfl fun first _ => split first
    _ = (∑ second, if ends second then 0 else units second) +
          ∑ second, ∑ first, if ¬ ends first ∧ leads first second then units second else 0 := by
      -- The units that starts are tied to are gathered at the ends instead.
      rw [Finset.sum_add_distrib, Finset.sum_comm]
    _ = _ := by
      rw [← Finset.sum_add_distrib]
      exact Finset.sum_congr rfl fun second _ =>
        sum_of_end leads ends units unique ended matched second

end Paired

namespace Score
variable {score : Score} (linked : score.Linked)
  (matched : Matched (score.notes.map Note.marking))

/-- Whether a note is tied to another, by their positions. -/
def Links (score : Score) (start stop : Fin score.notes.length) : Prop :=
  score.notes[start].tiedTo = some score.notes[stop].id

instance : DecidableRel score.Links := fun start stop =>
  inferInstanceAs (Decidable (score.notes[start].tiedTo = some score.notes[stop].id))

include linked

theorem links_iff {start stop : Fin score.notes.length} : score.Links start stop ↔
    Leads (score.notes.map Note.marking) start stop :=
  linked.links start stop _ _ (List.getElem?_eq_getElem start.isLt)
    (List.getElem?_eq_getElem stop.isLt)

theorem start_unique {first other stop : Fin score.notes.length} (one : score.Links first stop)
    (two : score.Links other stop) : first = other :=
  Fin.ext (((links_iff linked).mp one).start_unique ((links_iff linked).mp two))

theorem ends_of_links {start stop : Fin score.notes.length} (links : score.Links start stop) :
    score.notes[stop].endsTie = true := by
  obtain ⟨marking, here, ends, -⟩ := (links_iff linked).mp links
  rw [List.getElem?_map, List.getElem?_eq_getElem stop.isLt] at here
  cases here
  exact (Note.ends_tieMark _).symm.trans ends

include matched

private theorem begins_of_links {start stop : Fin score.notes.length}
    (links : score.Links start stop) :
    score.notes[start].beginsTie = true := by
  obtain ⟨marking, here, ends, nearest⟩ := (links_iff linked).mp links
  obtain ⟨same, first, near, there, begins⟩ := matched stop marking here ends
  cases nearest.unique near
  rw [List.getElem?_map, List.getElem?_eq_getElem start.isLt] at there
  cases there
  exact (Note.begins_tieMark _).symm.trans begins

theorem exists_links {stop : Fin score.notes.length} (ends : score.notes[stop].endsTie = true) :
    ∃ start, score.Links start stop := by
  have here : (score.notes.map Note.marking)[stop.val]? = some score.notes[stop].marking := by
    rw [List.getElem?_map, List.getElem?_eq_getElem stop.isLt]
    rfl
  have closes : score.notes[stop].marking.mark.ends = true := (Note.ends_tieMark _).trans ends
  obtain ⟨start, first, nearest, -⟩ := matched stop _ here closes
  have inside : start < score.notes.length := Nat.lt_trans nearest.earlier stop.isLt
  exact ⟨⟨start, inside⟩, (links_iff linked).mpr ⟨_, here, closes, nearest⟩⟩

private theorem partnerUnits_eq (start : Fin score.notes.length) :
    score.notes[start].partnerUnits score =
      ∑ stop, if score.Links start stop then score.notes[stop].duration else 0 := by
  cases tied : score.notes[start].tiedTo with
  | none =>
    have nobody (stop : Fin score.notes.length) : ¬ score.Links start stop := by
      rw [Links, tied]
      exact nofun
    rw [Note.partnerUnits, tied, Option.bind_none, Option.map_none, Option.getD_none, ite_self]
    exact (Finset.sum_eq_zero fun stop _ => if_neg (nobody stop)).symm
  | some id =>
    obtain ⟨second, member, rfl⟩ := linked.targets _ (List.getElem_mem start.isLt) id tied
    obtain ⟨place, inside, rfl⟩ := List.getElem_of_mem member
    have links : score.Links start ⟨place, inside⟩ := tied
    have only : (∑ stop, if score.Links start stop then score.notes[stop].duration else 0) =
        score.notes[place].duration := by
      rw [Finset.sum_eq_single ⟨place, inside⟩]
      · exact if_pos links
      · intro other _ differs
        refine if_neg fun also => differs (Fin.ext ?_)
        exact ((links_iff linked).mp also).stop_unique ((links_iff linked).mp links)
      · exact fun absent => absurd (Finset.mem_univ _) absent
    rw [only, Note.partnerUnits, tied, if_pos (begins_of_links linked matched links),
      Option.bind_some, linked.find?_of_mem member, Option.map_some, Option.getD_some]

omit linked matched in
theorem tiedOn_iff (stop : Fin score.notes.length) : score.tiedOn score.notes[stop] = true ↔
    ∃ start, score.notes[start].endsTie = true ∧ score.Links start stop := by
  simp only [tiedOn, List.any_eq_true, Bool.and_eq_true, beq_iff_eq]
  constructor
  · rintro ⟨first, member, ends, tied⟩
    obtain ⟨place, inside, rfl⟩ := List.getElem_of_mem member
    exact ⟨⟨place, inside⟩, ends, tied⟩
  · rintro ⟨start, ends, tied⟩
    exact ⟨score.notes[start], List.getElem_mem start.isLt, ends, tied⟩

omit matched in
theorem tiedOn_eq_false {note : Note} (member : note ∈ score.notes) (free : note.endsTie = false) :
    score.tiedOn note = false := by
  obtain ⟨place, inside, rfl⟩ := List.getElem_of_mem member
  refine Bool.eq_false_iff.mpr fun tied => ?_
  obtain ⟨start, -, links⟩ := (tiedOn_iff ⟨place, inside⟩).mp tied
  have ends := ends_of_links linked links
  rw [Fin.getElem_fin, free] at ends
  cases ends

/-- What is played of ties is what is counted of them. -/
theorem sum_playedUnits :
    (score.notes.map score.playedUnits).sum = (score.notes.map score.countedUnits).sum := by
  have paired := sum_paired score.Links (fun place => score.notes[place].endsTie = true)
    (fun place => score.notes[place].duration) (fun _ _ _ => start_unique linked)
    (fun _ _ => ends_of_links linked) fun _ => exists_links linked matched
  rw [← Fin.sum_univ_fun_getElem, ← Fin.sum_univ_fun_getElem]
  calc
    _ = ∑ place, if score.notes[place].endsTie = true then 0 else score.notes[place].duration +
          ∑ stop, if score.Links place stop then score.notes[stop].duration else 0 := by
      refine Finset.sum_congr rfl fun place _ => ?_
      rw [← partnerUnits_eq linked matched]
      rfl
    _ = _ := paired
    _ = _ := by
      refine Finset.sum_congr rfl fun place _ => ?_
      by_cases tied : score.tiedOn score.notes[place] = true
      · exact (if_pos ((tiedOn_iff place).mp tied)).trans (if_pos tied).symm
      · exact (if_neg fun found => tied ((tiedOn_iff place).mpr found)).trans (if_neg tied).symm

end Score

/-- Whether an item is a note without grace notes, a key, a tempo or a simple bar line. -/
def Item.isSingle : Item → Bool
  | .note single => single.grace.isEmpty
  | .chord _ => false
  | .absent => false
  | item => item.isPlain

theorem Item.isPlain_of_isSingle {item : Item} (single : item.isSingle = true) :
    item.isPlain = true := by
  cases item with
  | note | key | tempo => rfl
  | bar => exact single
  | chord | absent => cases single

section Singles
variable (score : Score) (count : Nat)

private theorem elapsed_of_isSingle {item : Item} (single : item.isSingle = true) :
    score.elapsed (96 * count) item.parts =
      count * ((item.notes.map score.playedUnits).sum : Nat) := by
  match item with
  | .note note =>
    have grace : note.grace = [] := List.isEmpty_iff.mp single
    rw [Item.parts, Item.notes, List.map_singleton, List.sum_singleton, Score.playedUnits, grace]
    split
    next => exact (Int.mul_zero _).symm
    next =>
      rw [List.nil_append, List.map_singleton, Score.elapsed_cons, Score.elapsed_nil, Int.add_zero,
        Part.length, Note.ticks, ticksOfUnits_whole, Int.natCast_add]
  | .key _ | .tempo _ | .bar _ => exact (Int.mul_zero _).symm

theorem elapsed_of_singles {items : List Item} (single : ∀ item ∈ items, item.isSingle = true) :
    score.elapsed (96 * count) (items.flatMap Item.parts) =
      count * (((items.flatMap Item.notes).map score.playedUnits).sum : Nat) := by
  induction items with
  | nil => exact (Int.mul_zero _).symm
  | cons item rest ih =>
    have first := elapsed_of_isSingle score count (single item List.mem_cons_self)
    have later := ih fun other member => single other (List.mem_cons_of_mem item member)
    rw [List.flatMap_cons, Score.elapsed_append, first, later, List.flatMap_cons, List.map_append,
      List.sum_append, Int.natCast_add, Int.mul_add]

end Singles

/-- The part that is played last is at the end of the track. -/
theorem Converter.exists_last_block {converter : Converter} {score : Score} {track : Track}
    {parts : List Part} {last : Part} (played : score.parts = parts ++ [last])
    (converted : (converter.convert score).result = .ok track) :
    ∃ earlier block, track.events = earlier ++ block.events converter.encoding ∧
      last.Leaves converter.encoding (score.elapsed converter.resolution parts)
        (score.elapsed converter.resolution parts + last.length score converter.resolution)
        block := by
  obtain ⟨channel, program, blocks, plays, rfl⟩ := exists_blocks converted
  have count := plays.length_eq
  rw [played, List.length_append, List.length_singleton] at count
  rcases List.eq_nil_or_concat blocks with rfl | ⟨front, block, rfl⟩
  · cases count
  · rw [List.concat_eq_append] at plays count ⊢
    rw [List.length_append, List.length_singleton] at count
    have length : front.length = parts.length := Nat.succ.inj count
    refine ⟨programEvent channel program :: front.flatMap (Block.events converter.encoding), block,
      ?_, ?_⟩
    · rw [Track.ofBlocks, List.flatMap_append, List.flatMap_singleton, List.cons_append]
    · have here : score.parts[parts.length]? = some last := by
        rw [played, List.getElem?_concat_length]
      have left : (front ++ [block])[parts.length]? = some block := by
        rw [← length, List.getElem?_concat_length]
      have leaves := plays.leaves_getElem here left
      rwa [played, List.take_left, Int.zero_add] at leaves

theorem Encoding.Sounds.of_single {encoding : Encoding} {tick stop : Int} {note : Note}
    {block : Block} (sounds : encoding.Sounds tick stop [note] block) :
    ∃ key start, block.events encoding = [start.event, encoding.stopEvent stop start] ∧
      encoding.Strikes tick key note start := by
  obtain ⟨key, starts, rfl, struck⟩ := sounds
  cases struck with
  | cons strikes rest =>
    cases rest
    exact ⟨key, _, rfl, strikes⟩

/-- A score of notes without grace notes, keys, tempi and simple bar lines, and of a last note that
sounds and is in no tie. -/
structure Score.EndsIn (score : Score) (before : List Item) (last : Note) : Prop where
  items : score.items = before ++ [.note last]
  single : ∀ item ∈ before, item.isSingle = true
  ungraced : last.grace = []
  untied : last.beginsTie = false
  sounds : last.sounds = true

namespace Score.EndsIn
variable {score : Score} {before : List Item} {last : Note} (ends : score.EndsIn before last)
include ends

theorem endsTie : last.endsTie = false := by
  simpa using (Bool.and_eq_true_iff.mp ends.sounds).2

theorem notes : score.notes = before.flatMap Item.notes ++ [last] := by
  rw [Score.notes, ends.items, List.flatMap_append, List.flatMap_singleton]
  rfl

theorem isPlain : ∀ item ∈ score.items, item.isPlain = true := by
  intro item member
  rw [ends.items] at member
  rcases List.mem_append.mp member with inside | rest
  · exact Item.isPlain_of_isSingle (ends.single item inside)
  · rw [List.mem_singleton.mp rest]
    rfl

theorem parts : score.parts = before.flatMap Item.parts ++ [.single last] := by
  rw [Score.parts, performed_of_isPlain ends.isPlain, ends.items, List.flatMap_append,
    List.flatMap_singleton, Item.parts, ends.endsTie, ends.ungraced]
  rfl

theorem partnerUnits : last.partnerUnits score = 0 := by
  rw [Note.partnerUnits, ends.untied]
  rfl

theorem sum_playedUnits (linked : score.Linked)
    (matched : Matched (score.notes.map Note.marking)) :
    ((before.flatMap Item.notes).map score.playedUnits).sum =
      ((before.flatMap Item.notes).map score.countedUnits).sum := by
  have all := Score.sum_playedUnits linked matched
  have member : last ∈ score.notes := by
    rw [ends.notes]
    exact List.mem_append_right _ List.mem_cons_self
  have played : score.playedUnits last = last.duration := by
    rw [playedUnits, ends.endsTie, ends.partnerUnits]
    rfl
  have counted : score.countedUnits last = last.duration := by
    rw [countedUnits, tiedOn_eq_false linked member ends.endsTie]
    rfl
  rw [ends.notes, List.map_append, List.map_append, List.sum_append, List.sum_append,
    List.map_singleton, List.map_singleton, played, counted] at all
  exact Nat.add_right_cancel all

/-- The last note is alone in the block that it leaves. -/
theorem leaves {encoding : Encoding} {tick : Int} {count : Nat} {block : Block}
    (left : (Part.single last).Leaves encoding tick
      (tick + (Part.single last).length score (96 * count)) block) :
    encoding.Sounds tick (tick + count * last.duration) [last] block := by
  have heard : (Part.single last).sounding = [last] := if_pos ends.sounds
  rwa [Part.Leaves, heard, Part.length, Note.ticks, ticksOfUnits_whole, ends.partnerUnits,
    Int.natCast_zero, Int.add_zero] at left

end Score.EndsIn

/-- A note that follows notes without grace notes, tied in any way, starts when the units before it
have gone by, where each note is counted but those that are tied to the end of another tie. -/
theorem Converter.convert_afterTies (room : Nat) (document : Value) (score : Score)
    (before : List Item) (last : Note) (converter : Converter) (count : Nat) (track : Track)
    (loaded : Document.score room document = .ok score) (ends : score.EndsIn before last)
    (resolution : converter.resolution = 96 * count)
    (converted : (converter.convert score).result = .ok track) :
    let tick : Int := count * ((before.flatMap Item.notes).map score.countedUnits).sum
    ∃ earlier key start, track.events = earlier ++
        [start.event, converter.encoding.stopEvent (tick + count * last.duration) start] ∧
      converter.encoding.Strikes tick key last start := by
  intro tick
  obtain ⟨linked, matched⟩ := Document.linked_of_score loaded
  obtain ⟨earlier, block, events, left⟩ := exists_last_block ends.parts converted
  have elapsed : score.elapsed converter.resolution (before.flatMap Item.parts) = tick := by
    rw [resolution, elapsed_of_singles score count ends.single,
      ends.sum_playedUnits linked matched]
  rw [elapsed, resolution] at left
  obtain ⟨key, start, same, strikes⟩ := (ends.leaves left).of_single
  exact ⟨earlier, key, start, same ▸ events, strikes⟩

/-- A chain of two ties, and a note after it. -/
def Document.chain : Value := .object [("items", .array [
  noteValue "C" "start", noteValue "C" "continue", noteValue "C" "end",
  .object [("type", .string "note"), ("pitch", .string "D")]])]

def Score.chain : Score where
  items := [.note { id := 0, beginsTie := true, tiedTo := some 1 },
    .note { id := 1, beginsTie := true, endsTie := true, tiedTo := some 2 },
    .note { id := 2, endsTie := true }, .note { id := 3, letter := .d }]

theorem Converter.convert_afterTies_chain :
    ∃ track, Document.score 6 Document.chain = .ok .chain ∧
      Score.chain.EndsIn (Score.chain.items.take 3) { id := 3, letter := .d } ∧
      flute.resolution = 96 * (1 : Nat) ∧ (flute.convert .chain).result = .ok track ∧
      ∃ earlier key start,
        track.events = earlier ++ [start.event, flute.encoding.stopEvent 288 start] ∧
        flute.encoding.Strikes 192 key { id := 3, letter := .d } start := by
  have loaded : Document.score 6 Document.chain = .ok .chain := rfl
  have ends : Score.chain.EndsIn (Score.chain.items.take 3) { id := 3, letter := .d } :=
    ⟨rfl, by decide, rfl, rfl, rfl⟩
  have succeeds : (flute.convert .chain).result.isOk = true := by decide +kernel
  have converted := except_eq_ok_getD succeeds ⟨0, []⟩
  exact ⟨_, loaded, ends, rfl, converted,
    convert_afterTies 6 Document.chain .chain _ _ flute 1 _ loaded ends rfl converted⟩

/-- The whole of a chain is not counted: its last note takes no time anywhere. -/
theorem Converter.convert_chain :
    ¬ ∀ (room : Nat) (document : Value) (score : Score) (before : List Item) (last : Note)
      (converter : Converter) (count : Nat) (track : Track),
      Document.score room document = .ok score → score.EndsIn before last → 1 ≤ count →
      converter.resolution = 96 * count → (converter.convert score).result = .ok track →
      ∃ event ∈ track.events, event.kind = .noteOn ∧
        event.tick = count * ((before.flatMap Item.notes).map Note.duration).sum := by
  intro claim
  have struck : ((flute.convert .chain).result.toOption.map fun track =>
      (track.events.filter (·.kind = .noteOn)).map Event.tick) = some [0, 192] := by
    decide +kernel
  obtain ⟨track, converted, ticks⟩ := Option.map_eq_some_iff.mp struck
  obtain ⟨event, member, kind, tick⟩ := claim 6 Document.chain .chain
    (Score.chain.items.take 3) { id := 3, letter := .d } flute 1 track rfl
    ⟨rfl, by decide, rfl, rfl, rfl⟩ (Nat.le_refl 1) rfl (except_eq_ok_of_toOption converted)
  have inside : event.tick ∈ (track.events.filter (·.kind = .noteOn)).map Event.tick :=
    List.mem_map_of_mem (List.mem_filter.mpr ⟨member, decide_eq_true kind⟩)
  rw [ticks, tick] at inside
  revert inside
  decide

end ScorePlayback
