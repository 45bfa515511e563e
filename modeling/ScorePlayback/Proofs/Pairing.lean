import ScorePlayback.Midi.File
import ScorePlayback.Proofs.StatedTempo
import ScorePlayback.Proofs.Timeline

/-! Starts and stops put together again. When the events of a converted track are gathered into
notes, every start meets its own stop, so nothing is warned about and nothing is dropped. -/

namespace ScorePlayback

/-- A tempo that a file can state. -/
def Block.Stated : Block → Prop
  | tempo _ value => ∃ microseconds, Tempo.statedMicroseconds value = .ok microseconds
  | sound _ _ => True

def Block.entries : Block → List Entry
  | tempo tick value => (Tempo.statedMicroseconds value).toOption.toList.map (.tempo tick)
  | sound starts stop => starts.map (.note · stop)

namespace Sheet

def prefixed (entries : List Entry) (sheet : Sheet) : Sheet :=
  { sheet with entries := entries ++ sheet.entries }

theorem prefixed_append (first second : List Entry) (sheet : Sheet) :
    sheet.prefixed (first ++ second) = (sheet.prefixed second).prefixed first := by
  simp only [prefixed, List.append_assoc]

theorem ofEvents_cons {pending left : List Start} {event : Event} {entry : Option Entry}
    (taken : step pending event = .ok (left, entry)) (rest : List Event) :
    ofEvents pending (event :: rest) = (ofEvents left rest).prefixed entry.toList := by
  simp only [ofEvents, taken, prefixed]

private theorem ofEvents_starts (pending starts : List Start) (rest : List Event) :
    ofEvents pending (starts.map Start.event ++ rest) = ofEvents (pending ++ starts) rest := by
  induction starts generalizing pending with
  | nil => rw [List.map_nil, List.nil_append, List.append_nil]
  | cons start starts ih =>
    have taken : step pending start.event = .ok (pending ++ [start], none) := rfl
    rw [List.map_cons, List.cons_append, ofEvents_cons taken, ih, List.append_assoc,
      List.singleton_append]
    rfl

private theorem step_stop (encoding : Encoding) (stop : Int) (start : Start)
    (pending : List Start) :
    step (start :: pending) (encoding.stopEvent stop start) =
      .ok (pending, some (.note start stop)) := by
  have own : start.isOf start.channel start.note = true := by
    simp only [Start.isOf, decide_true, Bool.and_self]
  have channel : (encoding.stopMessage start).channel? = some start.channel := by
    unfold Encoding.stopMessage
    cases encoding.kind <;> rfl
  have note : (encoding.stopMessage start).noteAndVelocity? = some (start.note, 0) := by
    unfold Encoding.stopMessage
    cases encoding.kind <;> rfl
  simp only [step, Encoding.stopEvent, channel, note, Message.require, Option.elim_some, bind,
    Except.bind, List.find?_cons_of_pos own, List.eraseP_cons_of_pos own]
  rfl

private theorem ofEvents_stops (encoding : Encoding) (stop : Int) (starts : List Start)
    (rest : List Event) :
    ofEvents starts (starts.map (encoding.stopEvent stop) ++ rest) =
      (ofEvents [] rest).prefixed (starts.map (.note · stop)) := by
  induction starts with
  | nil => rfl
  | cons start starts ih =>
    rw [List.map_cons, List.cons_append, ofEvents_cons (step_stop encoding stop start starts), ih,
      List.map_cons, ← List.singleton_append, prefixed_append]
    rfl

theorem ofEvents_block (encoding : Encoding) {block : Block} (stated : block.Stated)
    (rest : List Event) :
    ofEvents [] (block.events encoding ++ rest) = (ofEvents [] rest).prefixed block.entries := by
  cases block with
  | tempo tick value =>
    obtain ⟨microseconds, computed⟩ := stated
    have taken : step [] { tick, kind := .tempo, message := .setTempo value } =
        .ok ([], some (.tempo tick microseconds)) := by
      simp only [step, computed]
    simp only [Block.events, Block.entries, computed, List.singleton_append, ofEvents_cons taken]
    rfl
  | sound starts stop =>
    rw [Block.events, List.append_assoc, ofEvents_starts, List.nil_append, ofEvents_stops]
    rfl

theorem ofEvents_blocks (encoding : Encoding) {blocks : List Block}
    (stated : ∀ block ∈ blocks, block.Stated) :
    ofEvents [] (blocks.flatMap (Block.events encoding)) =
      { entries := blocks.flatMap Block.entries } := by
  induction blocks with
  | nil => rfl
  | cons block rest ih =>
    rw [List.flatMap_cons, ofEvents_block encoding (stated block List.mem_cons_self),
      ih fun other member => stated other (List.mem_cons_of_mem _ member), List.flatMap_cons]
    rfl

/-- Events that are gathered without a fault have no tempo that cannot be stated. -/
theorem stated_of_sound (encoding : Encoding) {blocks : List Block}
    (sound : (ofEvents [] (blocks.flatMap (Block.events encoding))).fault = none) :
    ∀ block ∈ blocks, block.Stated := by
  induction blocks with
  | nil => exact fun block member => nomatch member
  | cons first rest ih =>
    have stated : first.Stated := by
      cases first with
      | sound => trivial
      | tempo tick value =>
        cases computed : Tempo.statedMicroseconds value with
        | ok microseconds => exact ⟨microseconds, computed⟩
        | error fault =>
          simp only [List.flatMap_cons, Block.events, List.singleton_append, ofEvents, step,
            computed] at sound
          cases sound
    rw [List.flatMap_cons, ofEvents_block encoding stated] at sound
    exact List.forall_mem_cons.mpr ⟨stated, ih sound⟩

end Sheet

namespace Block
variable {encoding : Encoding} {block : Block}

theorem stated_of_nonzero (nonzero : ∀ event ∈ block.events encoding, event.kind = .tempo →
    event.message ≠ .setTempo 0) : block.Stated := by
  cases block with
  | sound => trivial
  | tempo tick value =>
    refine Tempo.exists_statedMicroseconds fun zero => ?_
    exact nonzero _ (List.mem_singleton_self _) rfl (congrArg Message.setTempo zero)

theorem strayRecord?_eq_none {entry : Entry} (member : entry ∈ block.entries) :
    Sheet.strayRecord? entry = none := by
  cases block with
  | tempo =>
    obtain ⟨microseconds, -, rfl⟩ := List.mem_map.mp member
    rfl
  | sound =>
    obtain ⟨start, -, rfl⟩ := List.mem_map.mp member
    rfl

end Block

end ScorePlayback
