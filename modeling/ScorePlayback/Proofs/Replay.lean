import ScorePlayback.Proofs.FileTracks

/-! A track of a file replayed: which notes sound after each of its events. Nothing is left sounding
at the end exactly if no note is started more often than it is ended from any place on. -/

namespace ScorePlayback

namespace FileEvent

/-- The notes that sound after an event. The end of a note that does not sound ends nothing. -/
def replay (sounding : List (Channel × DataByte)) : FileEvent → List (Channel × DataByte)
  | message (.noteOn channel note _) => (channel, note) :: sounding
  | message (.noteOff channel note _) => sounding.erase (channel, note)
  | _ => sounding

def strikes (pitch : Channel × DataByte) : FileEvent → Bool
  | message (.noteOn channel note _) => (channel, note) = pitch
  | _ => false

def releases (pitch : Channel × DataByte) : FileEvent → Bool
  | message (.noteOff channel note _) => (channel, note) = pitch
  | _ => false

private theorem count_replay (event : FileEvent) (sounding : List (Channel × DataByte))
    (pitch : Channel × DataByte) :
    (event.replay sounding).count pitch =
      sounding.count pitch + (event.strikes pitch).toNat - (event.releases pitch).toNat := by
  match event with
  | message (.noteOn channel note _) =>
    by_cases same : (channel, note) = pitch <;> simp [replay, strikes, releases, same]
  | message (.noteOff channel note _) =>
    by_cases same : (channel, note) = pitch <;>
      simp [replay, strikes, releases, List.count_erase, same]
  | message (.programChange _ _) | message (.controlChange _ _ _) | message (.setTempo _)
  | trackName _ | endOfTrack => rfl

end FileEvent

def FileTrack.leftSounding (track : FileTrack) : List (Channel × DataByte) :=
  (track.events.map Prod.snd).foldl FileEvent.replay []

namespace TimedBytes
variable {pitch : Channel × DataByte}

def strikes (pitch : Channel × DataByte) (timed : TimedBytes) : Bool := timed.event.strikes pitch

def releases (pitch : Channel × DataByte) (timed : TimedBytes) : Bool := timed.event.releases pitch

/-- No end of the events starts a note more often than it ends it. -/
def Balanced (pitch : Channel × DataByte) (events : List TimedBytes) : Prop :=
  ∀ rest, rest <:+ events → rest.countP (strikes pitch) ≤ rest.countP (releases pitch)

private theorem balanced_cons {timed : TimedBytes} {rest : List TimedBytes} :
    Balanced pitch (timed :: rest) ↔
      (timed :: rest).countP (strikes pitch) ≤ (timed :: rest).countP (releases pitch) ∧
        Balanced pitch rest := by
  constructor
  · intro balanced
    exact ⟨balanced _ (List.suffix_refl _), fun tail inside =>
      balanced tail (inside.trans (List.suffix_cons timed rest))⟩
  · rintro ⟨whole, balanced⟩ tail inside
    rcases List.suffix_cons_iff.mp inside with rfl | inside
    · exact whole
    · exact balanced tail inside

private theorem strikes_or_releases (pitch : Channel × DataByte) (timed : TimedBytes) :
    timed.strikes pitch = false ∨ timed.releases pitch = false := by
  unfold strikes releases
  match timed.event with
  | .message (.noteOn _ _ _) => exact .inr rfl
  | .message (.noteOff _ _ _) | .message (.programChange _ _) | .message (.controlChange _ _ _)
  | .message (.setTempo _) | .trackName _ | .endOfTrack => exact .inl rfl

/-- A note has been ended as often as it has been started, counting only the ends of it that come
while it sounds, when the starts never outnumber the ends to come. -/
theorem count_replay_eq_zero_iff (events : List TimedBytes)
    (sounding : List (Channel × DataByte)) :
    ((events.map event).foldl FileEvent.replay sounding).count pitch = 0 ↔
      sounding.count pitch + events.countP (strikes pitch) ≤ events.countP (releases pitch) ∧
        Balanced pitch events := by
  induction events generalizing sounding with
  | nil =>
    have empty : Balanced pitch [] := fun rest inside => by
      rw [List.suffix_nil.mp inside]
      exact Nat.le_refl _
    simp only [List.map_nil, List.foldl_nil, List.countP_nil, Nat.add_zero, Nat.le_zero, empty,
      and_true]
  | cons timed rest ih =>
    have count : (timed.event.replay sounding).count pitch = sounding.count pitch +
        (timed.strikes pitch).toNat - (timed.releases pitch).toNat :=
      timed.event.count_replay sounding pitch
    rw [List.map_cons, List.foldl_cons, ih, balanced_cons, count, List.countP_cons,
      List.countP_cons]
    -- An end that ends nothing is lost, but then the rest, balanced by itself, makes up for it.
    by_cases balanced : Balanced pitch rest
    · have covered := balanced rest (List.suffix_refl rest)
      rcases strikes_or_releases pitch timed with plain | plain
      · cases ending : timed.releases pitch <;>
          simp only [plain, balanced, Bool.toNat_false, Bool.toNat_true, if_true, if_false,
            Bool.false_eq_true, and_true] <;> omega
      · cases starting : timed.strikes pitch <;>
          simp only [plain, balanced, Bool.toNat_false, Bool.toNat_true, if_true, if_false,
            Bool.false_eq_true, and_true] <;> omega
    · simp only [balanced, and_false]

/-- The events after a moment of a tick make the end of the events in order. -/
private theorem filter_suffix {later : TimedBytes → Bool} {events : List TimedBytes}
    (onward : events.Pairwise fun first second => later first → later second) :
    events.filter later <:+ events := by
  induction events with
  | nil => exact List.suffix_refl []
  | cons timed rest ih =>
    obtain ⟨first, others⟩ := List.pairwise_cons.mp onward
    by_cases here : later timed
    · have whole := List.filter_eq_self.mpr (List.forall_mem_cons.mpr ⟨here, fun other member =>
        first other member here⟩)
      exact whole.symm ▸ List.suffix_refl _
    · rw [List.filter_cons_of_neg here]
      exact (ih others).trans (List.suffix_cons timed rest)

section Sorted
variable {events : List TimedBytes}

/-- Sorted events are balanced if no more notes start from a tick on than end after it. -/
theorem balanced_sorted (ends : ∀ tick,
    events.countP (fun timed => timed.strikes pitch && decide (tick ≤ timed.tick)) ≤
      events.countP (fun timed => timed.releases pitch && decide (tick < timed.tick))) :
    Balanced pitch (events.mergeSort notAfter) := by
  rintro rest ⟨front, split⟩
  cases rest with
  | nil => exact Nat.le_refl 0
  | cons timed tail =>
    have sorted := pairwise_sorted events
    have perm := List.mergeSort_perm events notAfter
    rw [← split] at sorted perm
    obtain ⟨-, after, across⟩ := List.pairwise_append.mp sorted
    -- Nothing in front is later than the first event of the rest, so every end that is later than
    -- this event is in the rest.
    have earlier : ∀ other ∈ front, other.tick ≤ timed.tick := fun other member =>
      tick_le_of_notAfter (across other member timed List.mem_cons_self)
    have later : ∀ other ∈ timed :: tail, timed.tick ≤ other.tick :=
      List.forall_mem_cons.mpr ⟨Int.le_refl _, fun other member =>
        tick_le_of_notAfter (List.rel_of_pairwise_cons after member)⟩
    calc (timed :: tail).countP (strikes pitch)
      _ ≤ (timed :: tail).countP fun other =>
          other.strikes pitch && decide (timed.tick ≤ other.tick) :=
        List.countP_mono_left fun other member strikes =>
          Bool.and_eq_true_iff.mpr ⟨strikes, decide_eq_true (later other member)⟩
      _ ≤ (front ++ timed :: tail).countP fun other =>
          other.strikes pitch && decide (timed.tick ≤ other.tick) :=
        (List.sublist_append_right front _).countP_le
      _ ≤ (front ++ timed :: tail).countP fun other =>
          other.releases pitch && decide (timed.tick < other.tick) := by
        rw [perm.countP_eq, perm.countP_eq]
        exact ends timed.tick
      _ = (timed :: tail).countP fun other =>
          other.releases pitch && decide (timed.tick < other.tick) := by
        rw [List.countP_append, Nat.add_eq_right]
        refine List.countP_eq_zero.mpr fun other member late => ?_
        have := earlier other member
        have := of_decide_eq_true (Bool.and_eq_true_iff.mp late).2
        omega
      _ ≤ (timed :: tail).countP (releases pitch) :=
        List.countP_mono_left fun other _ late => (Bool.and_eq_true_iff.mp late).1

/-- Of balanced events no more notes start than end from any place in their order on. -/
theorem Balanced.countP_le (balanced : Balanced pitch (events.mergeSort notAfter))
    (place : TimedBytes) :
    events.countP (fun timed => timed.strikes pitch && place.notAfter timed) ≤
      events.countP (fun timed => timed.releases pitch && place.notAfter timed) := by
  have perm := List.mergeSort_perm events notAfter
  have onward : (events.mergeSort notAfter).Pairwise fun first second =>
      place.notAfter first → place.notAfter second :=
    (pairwise_sorted events).imp fun order before => notAfter_trans before order
  have rest := balanced _ (filter_suffix onward)
  rw [List.countP_filter, List.countP_filter, perm.countP_eq, perm.countP_eq] at rest
  exact rest

end Sorted

end TimedBytes

namespace FileTrack

private theorem leftSounding_ofTimed (events : List TimedBytes) :
    (ofTimed events).leftSounding =
      ((events.mergeSort TimedBytes.notAfter).map TimedBytes.event).foldl FileEvent.replay [] := by
  have read : ∀ (now : Int) (events : List TimedBytes),
      (TimedBytes.deltasFrom now events).map Prod.snd =
        events.map TimedBytes.event ++ [.endOfTrack] := by
    intro now events
    induction events generalizing now with
    | nil => rfl
    | cons timed rest ih => rw [TimedBytes.deltasFrom, List.map_cons, ih]; rfl
  rw [leftSounding, ofTimed, read, List.foldl_append]
  rfl

theorem leftSounding_iff_balanced (events : List TimedBytes) :
    (ofTimed events).leftSounding = [] ↔
      ∀ pitch, TimedBytes.Balanced pitch (events.mergeSort TimedBytes.notAfter) := by
  rw [List.eq_nil_iff_forall_not_mem]
  refine forall_congr' fun pitch => ?_
  rw [← List.count_eq_zero, leftSounding_ofTimed, TimedBytes.count_replay_eq_zero_iff,
    List.count_nil, Nat.zero_add]
  exact ⟨And.right, fun balanced => ⟨balanced _ (List.suffix_refl _), balanced⟩⟩

end FileTrack

end ScorePlayback
