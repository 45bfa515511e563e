import ScorePlayback.Proofs.Writable

/-! Starts and stops in any order gathered into notes. For every channel and number the starts wait
in a queue of their own: a stop takes the first of them, and a stop that finds none is warned about
and takes nothing. -/

namespace ScorePlayback

namespace Event

/-- The message has the fields that an event of its kind needs. -/
def Complete (event : Event) : Prop :=
  match event.kind with
  | .tempo => True
  | .programChange => event.message.channel?.isSome ∧ event.message.program?.isSome
  | .noteOn | .noteOff => event.message.channel?.isSome ∧ event.message.noteAndVelocity?.isSome

/-- The event does not give a quarter note no time. -/
def Lasts (event : Event) : Prop :=
  match event.kind, event.message with
  | .tempo, .setTempo value => value.val ≠ 0
  | _, _ => True

def strikes (pitch : Channel × DataByte) (event : Event) : Bool :=
  event.kind = .noteOn ∧ event.message.pitch? = some pitch

def releases (pitch : Channel × DataByte) (event : Event) : Bool :=
  event.kind = .noteOff ∧ event.message.pitch? = some pitch

/-- The start that an event makes of a pitch. -/
def start? (pitch : Channel × DataByte) (event : Event) : Option Start :=
  if event.strikes pitch then
    event.message.noteAndVelocity?.map fun (note, velocity) =>
      { channel := pitch.1, note, tick := event.tick, velocity }
  else none

instance (event : Event) : Decidable event.Complete := by
  unfold Complete
  split <;> infer_instance

instance (event : Event) : Decidable event.Lasts := by
  unfold Lasts
  split <;> infer_instance

variable {event : Event} {pitch other : Channel × DataByte}

theorem strikes_iff :
    event.strikes pitch ↔ event.kind = .noteOn ∧ event.message.pitch? = some pitch :=
  decide_eq_true_iff

theorem releases_iff :
    event.releases pitch ↔ event.kind = .noteOff ∧ event.message.pitch? = some pitch :=
  decide_eq_true_iff

theorem not_releases_of_strikes (strikes : event.strikes pitch) : ¬ event.releases other :=
  fun releases => EventKind.noConfusion
    ((strikes_iff.mp strikes).1.symm.trans (releases_iff.mp releases).1)

theorem not_strikes_of_releases (releases : event.releases pitch) : ¬ event.strikes other :=
  fun strikes => not_releases_of_strikes strikes releases

theorem eq_of_strikes (first : event.strikes pitch) (second : event.strikes other) :
    pitch = other :=
  Option.some.inj ((strikes_iff.mp first).2.symm.trans (strikes_iff.mp second).2)

theorem eq_of_releases (first : event.releases pitch) (second : event.releases other) :
    pitch = other :=
  Option.some.inj ((releases_iff.mp first).2.symm.trans (releases_iff.mp second).2)

end Event

/-- The starts of a pitch in the order of the events. -/
def startsOf (pitch : Channel × DataByte) (events : List Event) : List Start :=
  events.filterMap (Event.start? pitch)

/-- The releases of a pitch that are matched, after some strikes of it and matched releases of it. A
release is matched if more strikes than matched releases come before it. -/
def matchedStops (pitch : Channel × DataByte) (struck matched : Nat) : List Event → List Event
  | [] => []
  | event :: rest =>
    if event.strikes pitch then matchedStops pitch (struck + 1) matched rest
    else if event.releases pitch ∧ matched < struck then
      event :: matchedStops pitch struck (matched + 1) rest
    else matchedStops pitch struck matched rest

/-- What a stop of a pitch leaves after some events. -/
def Event.stopEntry (pitch : Channel × DataByte) (before : List Event) (stop : Event) : Entry :=
  ((startsOf pitch before)[(matchedStops pitch 0 0 before).length]?).elim
    (.strayStop pitch.2 stop.tick) (.note · stop.tick)

section Steps
variable {pitch : Channel × DataByte} {struck matched : Nat} {event : Event} {rest : List Event}

theorem startsOf_struck {start : Start} (made : event.start? pitch = some start) :
    startsOf pitch (event :: rest) = start :: startsOf pitch rest :=
  List.filterMap_cons_some made

theorem startsOf_other (other : ¬ event.strikes pitch) :
    startsOf pitch (event :: rest) = startsOf pitch rest :=
  List.filterMap_cons_none (if_neg other)

theorem matchedStops_struck (strikes : event.strikes pitch) :
    matchedStops pitch struck matched (event :: rest) =
      matchedStops pitch (struck + 1) matched rest :=
  if_pos strikes

theorem matchedStops_released (releases : event.releases pitch) (more : matched < struck) :
    matchedStops pitch struck matched (event :: rest) =
      event :: matchedStops pitch struck (matched + 1) rest := by
  rw [matchedStops, if_neg (Event.not_strikes_of_releases releases), if_pos ⟨releases, more⟩]

theorem matchedStops_other (still : ¬ event.strikes pitch)
    (unmatched : event.releases pitch → struck ≤ matched) :
    matchedStops pitch struck matched (event :: rest) = matchedStops pitch struck matched rest := by
  rw [matchedStops, if_neg still, if_neg]
  exact fun taken => Nat.not_lt_of_le (unmatched taken.1) taken.2

end Steps

namespace Start

def pitch (start : Start) : Channel × DataByte := (start.channel, start.note)

theorem isOf_iff {channel : Channel} {note : DataByte} {start : Start} :
    start.isOf channel note ↔ start.pitch = (channel, note) := by
  rw [isOf, Bool.and_eq_true, decide_eq_true_eq, decide_eq_true_eq, pitch, Prod.mk.injEq]

/-- The queue of a pitch among the starts that are pending. -/
def queue (pitch : Channel × DataByte) (pending : List Start) : List Start :=
  pending.filter (·.pitch = pitch)

variable {pitch : Channel × DataByte} {pending front back : List Start} {start : Start}

theorem queue_struck (own : start.pitch = pitch) :
    queue pitch (pending ++ [start]) = queue pitch pending ++ [start] := by
  rw [queue, List.filter_append, List.filter_singleton, decide_eq_true own, cond_true, queue]

theorem queue_struck_other (other : start.pitch ≠ pitch) :
    queue pitch (pending ++ [start]) = queue pitch pending := by
  rw [queue, List.filter_append, List.filter_singleton, decide_eq_false other, cond_false,
    List.append_nil, queue]

theorem queue_idle (idle : ∀ other ∈ pending, other.pitch ≠ pitch) : queue pitch pending = [] :=
  List.filter_eq_nil_iff.mpr fun other member same => idle other member (of_decide_eq_true same)

/-- What is taken out is the head of its queue. -/
private theorem queue_ended (own : start.pitch = pitch)
    (first : ∀ other ∈ front, other.pitch ≠ pitch) :
    queue pitch (front ++ start :: back) = start :: queue pitch (front ++ back) := by
  have none : front.filter (·.pitch = pitch) = [] := queue_idle first
  rw [queue, queue, List.filter_append, List.filter_append, none, List.nil_append, List.nil_append,
    List.filter_cons, if_pos (decide_eq_true own)]

private theorem queue_ended_other (other : start.pitch ≠ pitch) :
    queue pitch (front ++ start :: back) = queue pitch (front ++ back) := by
  have dropped : ¬ decide (start.pitch = pitch) = true := fun own => other (of_decide_eq_true own)
  rw [queue, queue, List.filter_append, List.filter_append, List.filter_cons, if_neg dropped]

end Start

namespace Entry

def isNote : Entry → Bool
  | note _ _ => true
  | _ => false

def isNoteOf (pitch : Channel × DataByte) : Entry → Bool
  | note start _ => start.pitch = pitch
  | _ => false

private theorem not_isNoteOf {pitch : Channel × DataByte} {entry : Entry}
    (other : entry.isNote = false) :
    ¬ entry.isNoteOf pitch := by
  cases entry with
  | note => cases other
  | tempo | program | strayStop => exact Bool.false_ne_true

end Entry

/-- What an event does to the starts that are pending, and the entry that it leaves. -/
inductive Event.Gathers (event : Event) (pending : List Start) : List Start → Option Entry → Prop
  | aside {entry : Option Entry} (kind : event.kind ≠ .noteOn ∧ event.kind ≠ .noteOff)
      (silent : ∀ left ∈ entry, left.isNote = false ∧ Sheet.strayRecord? left = none) :
      Gathers event pending pending entry
  | struck {start : Start} (strikes : event.strikes start.pitch)
      (made : event.start? start.pitch = some start) :
      Gathers event pending (pending ++ [start]) none
  | ended {front back : List Start} {start : Start} (releases : event.releases start.pitch)
      (split : pending = front ++ start :: back)
      (first : ∀ other ∈ front, other.pitch ≠ start.pitch) :
      Gathers event pending (front ++ back) (some (.note start event.tick))
  | stray {channel : Channel} {note : DataByte} (releases : event.releases (channel, note))
      (idle : ∀ other ∈ pending, other.pitch ≠ (channel, note)) :
      Gathers event pending pending (some (.strayStop note event.tick))

/-- What an event does to the queue of one pitch, and the entry that it leaves. -/
inductive Event.Queues (pitch : Channel × DataByte) (event : Event) :
    List Start → List Start → Option Entry → Prop
  | other {queue : List Start} {entry : Option Entry} (still : ¬ event.strikes pitch)
      (held : ¬ event.releases pitch) (apart : ∀ left ∈ entry, ¬ left.isNoteOf pitch) :
      Queues pitch event queue queue entry
  | struck {queue : List Start} {start : Start} (strikes : event.strikes pitch)
      (made : event.start? pitch = some start) : Queues pitch event queue (queue ++ [start]) none
  | ended {queue : List Start} {start : Start} (releases : event.releases pitch)
      (own : start.pitch = pitch) :
      Queues pitch event (start :: queue) queue (some (.note start event.tick))
  | stray (releases : event.releases pitch) :
      Queues pitch event [] [] (some (.strayStop pitch.2 event.tick))

theorem Event.Gathers.queues {event : Event} {pending left : List Start} {entry : Option Entry}
    (gathers : event.Gathers pending left entry) (pitch : Channel × DataByte) :
    event.Queues pitch (Start.queue pitch pending) (Start.queue pitch left) entry := by
  cases gathers with
  | aside kind silent =>
    refine .other (fun strikes => kind.1 (strikes_iff.mp strikes).1)
      (fun releases => kind.2 (releases_iff.mp releases).1) fun left member => ?_
    exact Entry.not_isNoteOf (silent left member).1
  | @struck start strikes made =>
    by_cases own : start.pitch = pitch
    · subst own
      rw [Start.queue_struck rfl]
      exact .struck strikes made
    · rw [Start.queue_struck_other own]
      exact .other (fun other => own (eq_of_strikes strikes other))
        (not_releases_of_strikes strikes) nofun
  | @ended front back start releases split first =>
    subst split
    by_cases own : start.pitch = pitch
    · subst own
      rw [Start.queue_ended rfl first]
      exact .ended releases rfl
    · rw [Start.queue_ended_other own]
      refine .other (not_strikes_of_releases releases)
        (fun other => own (eq_of_releases releases other)) ?_
      rintro left ⟨⟩ among
      exact own (of_decide_eq_true among)
  | @stray channel note releases idle =>
    by_cases own : (channel, note) = pitch
    · subst own
      rw [Start.queue_idle idle]
      exact .stray releases
    · refine .other (not_strikes_of_releases releases)
        (fun other => own (eq_of_releases releases other)) ?_
      rintro left ⟨⟩
      exact Bool.false_ne_true

/-- A stop of the pitch takes the head of the queue, if there is one. -/
theorem Event.Queues.entry_of_releases {pitch : Channel × DataByte} {event : Event}
    {before after : List Start} {entry : Option Entry}
    (queues : event.Queues pitch before after entry) (releases : event.releases pitch) :
    entry = some (before.head?.elim (.strayStop pitch.2 event.tick) (.note · event.tick)) := by
  cases queues with
  | other still held => exact absurd releases held
  | struck strikes => exact absurd releases (not_releases_of_strikes strikes)
  | ended | stray => rfl

namespace Message

theorem exists_sounding {message : Message}
    (complete : message.channel?.isSome ∧ message.noteAndVelocity?.isSome) :
    ∃ channel note velocity, message.channel? = some channel ∧
      message.noteAndVelocity? = some (note, velocity) ∧ message.pitch? = some (channel, note) := by
  match message, complete with
  | noteOn channel note velocity, _ => exact ⟨channel, note, velocity, rfl, rfl, rfl⟩
  | noteOff channel note velocity, _ => exact ⟨channel, note, velocity, rfl, rfl, rfl⟩

end Message

namespace Sheet

/-- A stop takes the first start of its pitch out, wherever it stands. -/
private theorem exists_gathers_release (pending : List Start) {event : Event}
    (kind : event.kind = .noteOff)
    (complete : event.message.channel?.isSome ∧ event.message.noteAndVelocity?.isSome) :
    ∃ left entry, step pending event = .ok (left, entry) ∧ event.Gathers pending left entry := by
  obtain ⟨channel, note, velocity, onChannel, sounding, own⟩ := Message.exists_sounding complete
  have releases : event.releases (channel, note) := decide_eq_true ⟨kind, own⟩
  cases found : pending.find? (Start.isOf channel note) with
  | some start =>
    obtain ⟨fitting, front, back, rfl, before⟩ := List.find?_eq_some_iff_append.mp found
    have same := Start.isOf_iff.mp fitting
    have others : ∀ other ∈ front, ¬ other.isOf channel note := fun other member => by
      simpa only [Bool.not_eq_true', Bool.not_eq_true] using before other member
    refine ⟨front ++ back, some (.note start event.tick), ?_, .ended (same ▸ releases) rfl ?_⟩
    · simp only [step, kind, onChannel, sounding, Message.require, Option.elim_some, bind,
        Except.bind, found, List.eraseP_append_right _ others, List.eraseP_cons_of_pos fitting]
      rfl
    · exact fun other member equal => others other member (Start.isOf_iff.mpr (equal.trans same))
  | none =>
    refine ⟨pending, some (.strayStop note event.tick), ?_, .stray releases ?_⟩
    · simp only [step, kind, onChannel, sounding, Message.require, Option.elim_some, bind,
        Except.bind, found]
      rfl
    · exact fun other member equal =>
        List.find?_eq_none.mp found other member (Start.isOf_iff.mpr equal)

theorem exists_gathers (pending : List Start) {event : Event} (complete : event.Complete)
    (lasts : event.Lasts) :
    ∃ left entry, step pending event = .ok (left, entry) ∧ event.Gathers pending left entry := by
  unfold Event.Complete at complete
  cases kind : event.kind with
  | tempo =>
    have aside : event.kind ≠ .noteOn ∧ event.kind ≠ .noteOff := by
      simp only [kind, ne_eq, reduceCtorEq, not_false_eq_true, and_self]
    cases said : event.message with
    | setTempo value =>
      rw [Event.Lasts, kind, said] at lasts
      have nonzero : value ≠ 0 := fun zero => lasts (congrArg Fin.val zero)
      obtain ⟨microseconds, computed⟩ := Tempo.exists_statedMicroseconds nonzero
      refine ⟨pending, some (.tempo event.tick microseconds), ?_, .aside aside ?_⟩
      · simp only [step, kind, said, computed]
      · rintro left ⟨⟩
        exact ⟨rfl, rfl⟩
    | noteOn | noteOff | programChange | controlChange =>
      refine ⟨pending, none, ?_, .aside aside ?_⟩
      · simp only [step, kind, said]
      · rintro left ⟨⟩
  | programChange =>
    rw [kind] at complete
    obtain ⟨channel, onChannel⟩ := Option.isSome_iff_exists.mp complete.1
    obtain ⟨program, among⟩ := Option.isSome_iff_exists.mp complete.2
    refine ⟨pending, some (.program event.tick channel program), ?_, .aside ?_ ?_⟩
    · simp only [step, kind, onChannel, among, Message.require, Option.elim_some]
      rfl
    · simp only [kind, ne_eq, reduceCtorEq, not_false_eq_true, and_self]
    · rintro left ⟨⟩
      exact ⟨rfl, rfl⟩
  | noteOn =>
    rw [kind] at complete
    obtain ⟨channel, note, velocity, onChannel, sounding, own⟩ := Message.exists_sounding complete
    have strikes : event.strikes (channel, note) := decide_eq_true ⟨kind, own⟩
    refine ⟨pending ++ [{ channel, note, tick := event.tick, velocity }], none, ?_, ?_⟩
    · simp only [step, kind, onChannel, sounding, Message.require, Option.elim_some]
      rfl
    · refine .struck strikes ?_
      rw [Event.start?, Start.pitch, if_pos strikes, sounding]
      rfl
  | noteOff =>
    rw [kind] at complete
    exact exists_gathers_release pending kind complete

/-- The warnings about stops that take no start. -/
def stopWarnings (sheet : Sheet) : List Log.Record := sheet.entries.filterMap strayRecord?

/-- The notes of a pitch are made of its starts and stops in their order, and the starts that are
left over stay. -/
structure Pairs (pitch : Channel × DataByte) (starts : List Start) (stops : List Event)
    (sheet : Sheet) : Prop where
  notes : sheet.entries.filter (Entry.isNoteOf pitch) =
    List.zipWith (fun start stop => .note start stop.tick) starts stops
  enough : stops.length ≤ starts.length
  unreleased : Start.queue pitch sheet.unreleased = starts.drop stops.length

section Pairs
variable {pitch : Channel × DataByte} {starts : List Start} {stops : List Event} {sheet : Sheet}

theorem Pairs.prefixed (pairs : sheet.Pairs pitch starts stops) {entries : List Entry}
    (others : entries.filter (Entry.isNoteOf pitch) = []) :
    (sheet.prefixed entries).Pairs pitch starts stops where
  notes := by rw [Sheet.prefixed, List.filter_append, others, List.nil_append, pairs.notes]
  enough := pairs.enough
  unreleased := pairs.unreleased

theorem Pairs.cons (pairs : sheet.Pairs pitch starts stops) {start : Start}
    (own : start.pitch = pitch) (stop : Event) :
    (sheet.prefixed [.note start stop.tick]).Pairs pitch (start :: starts) (stop :: stops) where
  notes := by
    have kept : Entry.isNoteOf pitch (.note start stop.tick) = true := decide_eq_true own
    rw [Sheet.prefixed, List.singleton_append, List.filter_cons_of_pos kept, pairs.notes,
      List.zipWith_cons_cons]
  enough := Nat.succ_le_succ pairs.enough
  unreleased := pairs.unreleased

end Pairs

private theorem pairs_pending (pitch : Channel × DataByte) (pending : List Start)
    {events : List Event}
    (complete : ∀ event ∈ events, event.Complete) (lasts : ∀ event ∈ events, event.Lasts)
    {struck matched : Nat} (balance : matched + (Start.queue pitch pending).length = struck) :
    (ofEvents pending events).Pairs pitch (Start.queue pitch pending ++ startsOf pitch events)
      (matchedStops pitch struck matched events) := by
  induction events generalizing pending struck matched with
  | nil => exact ⟨List.zipWith_nil_right.symm, Nat.zero_le _, (List.append_nil _).symm⟩
  | cons event rest ih =>
    rw [List.forall_mem_cons] at complete lasts
    obtain ⟨left, entry, taken, gathers⟩ := exists_gathers pending complete.1 lasts.1
    have later := @ih left complete.2 lasts.2
    have queues := gathers.queues pitch
    rw [ofEvents_cons taken]
    generalize Start.queue pitch left = after at queues later
    generalize Start.queue pitch pending = before at queues balance ⊢
    cases queues with
    | other still held apart =>
      rw [startsOf_other still, matchedStops_other still fun releases => absurd releases held]
      refine (later balance).prefixed (List.filter_eq_nil_iff.mpr fun left member => ?_)
      exact apart left (Option.mem_toList.mp member)
    | struck strikes made =>
      rw [startsOf_struck made, matchedStops_struck strikes, List.append_cons]
      refine later ?_
      rw [List.length_append, List.length_singleton, ← Nat.add_assoc, balance]
    | @ended queue start releases own =>
      rw [List.length_cons, ← Nat.succ_add_eq_add_succ] at balance
      have more : matched < struck := Nat.le_trans (Nat.le_add_right _ _) (Nat.le_of_eq balance)
      rw [startsOf_other (Event.not_strikes_of_releases releases),
        matchedStops_released releases more, List.cons_append]
      exact (later balance).cons own event
    | stray releases =>
      have still : ¬ event.strikes pitch := Event.not_strikes_of_releases releases
      have level : struck ≤ matched := Nat.le_of_eq balance.symm
      rw [startsOf_other still, matchedStops_other still fun _ => level]
      exact (later balance).prefixed rfl

theorem pairs_ofEvents (pitch : Channel × DataByte) {events : List Event}
    (complete : ∀ event ∈ events, event.Complete) (lasts : ∀ event ∈ events, event.Lasts) :
    (ofEvents [] events).Pairs pitch (startsOf pitch events) (matchedStops pitch 0 0 events) :=
  pairs_pending pitch [] complete lasts rfl

/-- Every start is in a note or left over, and every stop is in a note or warned about. -/
structure Conserves (starts stops : Nat) (sheet : Sheet) : Prop where
  starts : sheet.entries.countP Entry.isNote + sheet.unreleased.length = starts
  stops : sheet.entries.countP Entry.isNote + sheet.stopWarnings.length = stops

section Conserves
variable {starts stops : Nat} {sheet : Sheet}

theorem Conserves.aside (kept : sheet.Conserves starts stops) {entries : List Entry}
    (silent : ∀ left ∈ entries, left.isNote = false ∧ strayRecord? left = none) :
    (sheet.prefixed entries).Conserves starts stops := by
  have notes : entries.countP Entry.isNote = 0 := List.countP_eq_zero.mpr fun left member =>
    Bool.eq_false_iff.mp (silent left member).1
  have warnings : entries.filterMap strayRecord? = [] :=
    List.filterMap_eq_nil_iff.mpr fun left member => (silent left member).2
  constructor
  · rw [prefixed, List.countP_append, notes, Nat.zero_add, kept.starts]
  · rw [prefixed, stopWarnings, List.countP_append, List.filterMap_append, notes, warnings,
      Nat.zero_add, List.nil_append, ← stopWarnings, kept.stops]

theorem Conserves.note (kept : sheet.Conserves starts stops) (start : Start) (stop : Int) :
    (sheet.prefixed [.note start stop]).Conserves (starts + 1) (stops + 1) := by
  constructor
  · rw [prefixed, List.singleton_append, List.countP_cons_of_pos rfl, Nat.add_right_comm,
      kept.starts]
  · rw [prefixed, stopWarnings, List.singleton_append, List.countP_cons_of_pos rfl,
      List.filterMap_cons_none rfl, Nat.add_right_comm, ← stopWarnings, kept.stops]

theorem Conserves.stray (kept : sheet.Conserves starts stops) (note : DataByte) (tick : Int) :
    (sheet.prefixed [.strayStop note tick]).Conserves starts (stops + 1) := by
  constructor
  · rw [prefixed, List.singleton_append, List.countP_cons_of_neg Bool.false_ne_true, kept.starts]
  · have warned : (sheet.prefixed [.strayStop note tick]).stopWarnings.length =
        sheet.stopWarnings.length + 1 := rfl
    rw [warned, prefixed, List.singleton_append, List.countP_cons_of_neg Bool.false_ne_true,
      ← Nat.add_assoc, kept.stops]

end Conserves

theorem countP_kind_cons (kind : EventKind) (event : Event) (rest : List Event) :
    (event :: rest).countP (·.kind = kind) =
      rest.countP (·.kind = kind) + if event.kind = kind then 1 else 0 := by
  simp only [List.countP_cons, decide_eq_true_eq]

theorem conserves_ofEvents (pending : List Start) {events : List Event}
    (complete : ∀ event ∈ events, event.Complete) (lasts : ∀ event ∈ events, event.Lasts) :
    (ofEvents pending events).Conserves (pending.length + events.countP (·.kind = .noteOn))
      (events.countP (·.kind = .noteOff)) := by
  induction events generalizing pending with
  | nil => exact ⟨Nat.zero_add _, rfl⟩
  | cons event rest ih =>
    rw [List.forall_mem_cons] at complete lasts
    obtain ⟨left, entry, taken, gathers⟩ := exists_gathers pending complete.1 lasts.1
    have kept := ih left complete.2 lasts.2
    rw [ofEvents_cons taken]
    cases gathers with
    | aside kind silent =>
      rw [countP_kind_cons, countP_kind_cons, if_neg kind.1, if_neg kind.2]
      exact kept.aside fun left member => silent left (Option.mem_toList.mp member)
    | struck strikes =>
      obtain ⟨kind, -⟩ := Event.strikes_iff.mp strikes
      rw [countP_kind_cons, countP_kind_cons, kind, if_pos rfl, if_neg nofun, Nat.add_comm _ 1,
        ← Nat.add_assoc]
      rw [List.length_append, List.length_singleton] at kept
      exact kept
    | @ended front back start releases split =>
      obtain ⟨kind, -⟩ := Event.releases_iff.mp releases
      have taken : pending.length = (front ++ back).length + 1 := by
        rw [split, List.length_append, List.length_append, List.length_cons, Nat.add_assoc]
      rw [countP_kind_cons, countP_kind_cons, kind, if_pos rfl, if_neg nofun, taken, Nat.add_zero,
        Nat.add_right_comm]
      exact kept.note start event.tick
    | stray releases =>
      obtain ⟨kind, -⟩ := Event.releases_iff.mp releases
      rw [countP_kind_cons, countP_kind_cons, kind, if_pos rfl, if_neg nofun]
      exact kept.stray _ _

theorem fault_ofEvents (pending : List Start) {events : List Event}
    (complete : ∀ event ∈ events, event.Complete) (lasts : ∀ event ∈ events, event.Lasts) :
    (ofEvents pending events).fault = none := by
  induction events generalizing pending with
  | nil => rfl
  | cons event rest ih =>
    rw [List.forall_mem_cons] at complete lasts
    obtain ⟨left, entry, taken, -⟩ := exists_gathers pending complete.1 lasts.1
    rw [ofEvents_cons taken]
    exact ih left complete.2 lasts.2

/-- The first tempo of no length ends the gathering. -/
private theorem fault_of_vanishing (pending : List Start) {events : List Event}
    (complete : ∀ event ∈ events, event.Complete) (vanishing : ¬ ∀ event ∈ events, event.Lasts) :
    (ofEvents pending events).fault = some (.tempo .zeroDivision) := by
  induction events generalizing pending with
  | nil => exact absurd (List.forall_mem_nil _) vanishing
  | cons event rest ih =>
    rw [List.forall_mem_cons] at complete
    by_cases lasts : event.Lasts
    · obtain ⟨left, entry, taken, -⟩ := exists_gathers pending complete.1 lasts
      rw [ofEvents_cons taken]
      exact ih left complete.2 fun others => vanishing (List.forall_mem_cons.mpr ⟨lasts, others⟩)
    · unfold Event.Lasts at lasts
      split at lasts
      next value kind said =>
        obtain rfl : value = 0 := Fin.ext (not_not.mp lasts)
        have failed : step pending event = .error (.tempo .zeroDivision) := by
          simp only [step, kind, said, Tempo.statedMicroseconds_zero]
        rw [ofEvents, failed]
      next => exact absurd trivial lasts

private theorem ofEvents_append {pending : List Start} {before : List Event}
    (sound : (ofEvents pending before).fault = none) (rest : List Event) :
    ofEvents pending (before ++ rest) =
      (ofEvents (ofEvents pending before).unreleased rest).prefixed
        (ofEvents pending before).entries := by
  induction before generalizing pending with
  | nil => rfl
  | cons event before ih =>
    cases taken : step pending event with
    | error fault =>
      rw [ofEvents, taken] at sound
      cases sound
    | ok next =>
      obtain ⟨left, entry⟩ := next
      rw [ofEvents_cons taken] at sound ⊢
      rw [List.cons_append, ofEvents_cons taken, ih sound, ← prefixed_append]
      rfl

/-- A stop takes the first start of its pitch that those before it have left. -/
private theorem entries_release {pitch : Channel × DataByte} {before after : List Event}
    {stop : Event}
    (complete : ∀ event ∈ before ++ stop :: after, event.Complete)
    (lasts : ∀ event ∈ before ++ stop :: after, event.Lasts) (releases : stop.releases pitch) :
    (ofEvents [] before).entries ++ [stop.stopEntry pitch before] <+:
      (ofEvents [] (before ++ stop :: after)).entries := by
  rw [List.forall_mem_append, List.forall_mem_cons] at complete lasts
  have head := congrArg List.head? (pairs_ofEvents pitch complete.1 lasts.1).unreleased
  rw [List.head?_drop] at head
  obtain ⟨left, entry, taken, gathers⟩ :=
    exists_gathers (ofEvents [] before).unreleased complete.2.1 lasts.2.1
  rw [ofEvents_append (fault_ofEvents [] complete.1 lasts.1), ofEvents_cons taken,
    ← prefixed_append]
  rw [(gathers.queues pitch).entry_of_releases releases, head]
  exact List.prefix_append _ _

/-- The events of a track gathered into notes. Each stop takes the first start of its pitch that is
left, if there is one, so that the stops that are matched take the starts in order. -/
structure Gathered (events : List Event) : Prop where
  sound : (ofEvents [] events).fault = none
  released : ∀ pitch before stop after, events = before ++ stop :: after → stop.releases pitch →
    (ofEvents [] before).entries ++ [stop.stopEntry pitch before] <+: (ofEvents [] events).entries
  pairs : ∀ pitch, (ofEvents [] events).Pairs pitch (startsOf pitch events)
    (matchedStops pitch 0 0 events)
  conserves : (ofEvents [] events).Conserves (events.countP (·.kind = .noteOn))
    (events.countP (·.kind = .noteOff))

/-- The events of any track are gathered into notes, unless one of them is a tempo of no length. The
first of these ends the gathering in a division by zero. -/
theorem gathered_of_complete (track : Track) (complete : ∀ event ∈ track.events, event.Complete) :
    ((∀ event ∈ track.events, event.Lasts) → Gathered track.events) ∧
    (¬ (∀ event ∈ track.events, event.Lasts) →
      (ofEvents [] track.events).fault = some (.tempo .zeroDivision)) := by
  refine ⟨fun lasts => ⟨fault_ofEvents [] complete lasts, ?_, ?_, ?_⟩, ?_⟩
  · intro pitch before stop after split releases
    rw [split] at complete lasts ⊢
    exact entries_release complete lasts releases
  · exact fun pitch => pairs_ofEvents pitch complete lasts
  · have conserves := conserves_ofEvents [] complete lasts
    rwa [List.length_nil, Nat.zero_add] at conserves
  · exact fault_of_vanishing [] complete

end Sheet

/-- Two notes of one pitch and one of another, all crossing, with a stop before the first of them
and a start after the last. -/
def Track.crossing (channel : Channel) (note other velocity : DataByte) : Track where
  resolution := 96
  events := [
    { tick := 0, kind := .noteOff, message := .noteOff channel note velocity },
    { tick := 0, kind := .noteOn, message := .noteOn channel note velocity },
    { tick := 8, kind := .noteOn, message := .noteOn channel other velocity },
    { tick := 16, kind := .noteOn, message := .noteOn channel note velocity },
    { tick := 24, kind := .noteOff, message := .noteOff channel note velocity },
    { tick := 32, kind := .noteOff, message := .noteOff channel note velocity },
    { tick := 40, kind := .noteOff, message := .noteOff channel other velocity },
    { tick := 48, kind := .noteOn, message := .noteOn channel note velocity }]

theorem Sheet.gathered_crossing :
    Gathered (Track.crossing 0 60 62 64).events ∧
      ofEvents [] (Track.crossing 0 60 62 64).events = {
        entries := [.strayStop 60 0, .note ⟨0, 60, 0, 64⟩ 24, .note ⟨0, 60, 16, 64⟩ 32,
          .note ⟨0, 62, 8, 64⟩ 40]
        unreleased := [⟨0, 60, 48, 64⟩] } :=
  ⟨(gathered_of_complete (.crossing 0 60 62 64) (by decide)).1 (by decide), by decide⟩

/-- A note under a tempo. -/
def Track.paced (value : TempoValue) (channel : Channel) (note velocity : DataByte) : Track where
  resolution := 96
  events := [
    { tick := 0, kind := .tempo, message := .setTempo value },
    { tick := 0, kind := .noteOn, message := .noteOn channel note velocity },
    { tick := 96, kind := .noteOff, message := .noteOff channel note velocity }]

/-- The stop has a start to take, and there is no note. -/
theorem Sheet.fault_timeless :
    (∀ event ∈ (Track.paced 0 0 60 64).events, event.Complete) ∧
      startsOf (0, 60) (Track.paced 0 0 60 64).events = [⟨0, 60, 0, 64⟩] ∧
      (matchedStops (0, 60) 0 0 (Track.paced 0 0 60 64).events).map Event.tick = [96] ∧
      (ofEvents [] (Track.paced 0 0 60 64).events).entries = [] ∧
      (MidiFile.ofTrack "Score" (.paced 0 0 60 64)).result = .error (.tempo .zeroDivision) := by
  refine ⟨by decide, rfl, rfl, by decide +kernel, ?_⟩
  exact MidiFile.ofTrack_of_fault Text.Latin1.encode_score (by decide) (by decide +kernel)

end ScorePlayback
