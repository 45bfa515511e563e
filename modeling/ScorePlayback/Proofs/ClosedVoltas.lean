import ScorePlayback.Proofs.Voltas

/-! Voltas that are closed by repeat marks. The mark that closes the first volta is met again on the
second pass, on which this volta is skipped, and ends the repeat there: the body is not played any
more and the later voltas follow one another. -/

namespace ScorePlayback

namespace Strophes

/-- Every volta but the last is closed by a repeat mark, and the last by a bar line. -/
def closed (strophes : Strophes) : Score where
  items := .bar (.line .repeatOpen) :: strophes.body
    ++ [.bar (.line .repeatClose)].intercalate (strophes.voltas.map Volta.bracketed) ++ [.barLine]

/-- Written out, with the body in front of so many of the voltas. -/
def writtenOut (strophes : Strophes) (times : Nat) : Score where
  items := (strophes.voltas.take times).flatMap (fun volta =>
      strophes.body ++ .barLine :: volta.items ++ [.barLine])
    ++ (strophes.voltas.drop times).flatMap fun volta => volta.items ++ [.barLine]

private theorem flatMap_notes_closed (voltas : List Volta) :
    ([.bar (.line .repeatClose)].intercalate (voltas.map Volta.bracketed)).flatMap Item.notes =
      voltas.flatMap fun volta => volta.items.flatMap Item.notes := by
  induction voltas with
  | nil => rfl
  | cons volta rest ih =>
    have own : volta.bracketed.flatMap Item.notes = volta.items.flatMap Item.notes := rfl
    cases rest with
    | nil => rw [List.map_singleton, List.intercalate_singleton, List.flatMap_singleton, own]
    | cons next more =>
      rw [List.map_cons] at ih ⊢
      have mark : [Item.bar (.line .repeatClose)].flatMap Item.notes = [] := rfl
      rw [List.map_cons, List.intercalate_cons_cons, List.flatMap_append, List.flatMap_append, ih,
        own, mark, List.append_nil]
      rfl

theorem find?_writtenOut (strophes : Strophes) {times : Nat} (positive : 0 < times) :
    (strophes.writtenOut times).find? = strophes.closed.find? := by
  obtain ⟨body, voltas, plain, nonempty, numbered⟩ := strophes
  have taken : voltas.take times ≠ [] := by
    rw [ne_eq, List.take_eq_nil_iff, not_or]
    exact ⟨Nat.ne_of_gt positive, nonempty⟩
  have notes : voltas.flatMap (fun volta => volta.items.flatMap Item.notes) =
      (voltas.take times).flatMap (fun volta => volta.items.flatMap Item.notes) ++
        (voltas.drop times).flatMap fun volta => volta.items.flatMap Item.notes := by
    rw [← List.flatMap_append, List.take_append_drop]
  funext id
  rw [Score.find?_eq, Score.find?_eq]
  simp only [writtenOut, closed, Item.barLine, List.flatMap_append, List.flatMap_cons,
    List.flatMap_nil, List.flatMap_assoc, Item.notes_bar, List.nil_append, List.append_nil,
    List.cons_append, flatMap_notes_closed, notes]
  rw [List.find?_append, find?_flatMap_front _ _ _ taken, ← List.find?_append, List.append_assoc]

variable {score : Score} {body ahead : List Item} {voltas rest : List Volta} {first : Volta}

/-- Once the repeat has ended nothing goes back, and every volta ahead is played. -/
private theorem continues_closed (nonempty : voltas ≠ [])
    (due : ∀ volta ∈ voltas, 1 ≤ volta.ending.target) (skipping : Bool) :
    score.Continues ⟨none, 1, skipping⟩
      ([.bar (.line .repeatClose)].intercalate (voltas.map Volta.bracketed) ++ [.barLine])
      (.barLine :: voltas.flatMap fun volta => volta.items ++ [.barLine]) := by
  have passed (skipping : Bool) (item : Item) :
      (RepeatState.mk none 1 skipping).sentBack? item = none :=
    RepeatState.sentBack?_eq_none_iff.mpr (.inl rfl)
  induction voltas generalizing skipping with
  | nil => cases nonempty rfl
  | cons volta rest ih =>
    have playing := due volta List.mem_cons_self
    cases rest with
    | nil =>
      have ended : score.Continues ⟨none, 1, false⟩ [.barLine] [.barLine] :=
        .step (passed _ _) fun _ _ => .nil
      rw [List.map_singleton, List.intercalate_singleton, List.flatMap_singleton]
      exact .volta_played (passed _ _) playing ended
    | cons next more =>
      have onward := ih (List.cons_ne_nil _ _) (fun other member =>
        due other (List.mem_cons_of_mem _ member)) false
      have closing : score.Continues ⟨none, 1, false⟩ (.bar (.line .repeatClose) :: _)
          (.barLine :: .barLine :: _) := .step (passed _ _) fun _ _ => onward
      have marked := closing.trans (.repeated_bar _)
      rw [List.map_cons] at marked ⊢
      rw [List.map_cons, List.intercalate_cons_cons, List.flatMap_cons]
      simp only [List.append_assoc, List.cons_append, List.nil_append] at marked ⊢
      exact .volta_played (passed _ _) playing marked

private theorem continues_twice {opening : Nat} (plain : ∀ item ∈ body, item.isPlain = true)
    (nonempty : rest ≠ []) (numbered : Volta.Numbered 1 (first :: rest))
    (behind : score.items.drop (opening + 1) = body ++ (first.bracketed ++
      .bar (.line .repeatClose) ::
        ([.bar (.line .repeatClose)].intercalate (rest.map Volta.bracketed) ++ [.barLine]))) :
    score.Continues ⟨some opening, 1, false⟩ (score.items.drop (opening + 1))
      (body ++ .barLine :: (first.items ++ .barLine :: (body ++ .barLine ::
        rest.flatMap fun volta => volta.items ++ [.barLine]))) := by
  obtain ⟨due, later⟩ := numbered
  have ahead : ∀ volta ∈ rest, 1 ≤ volta.ending.target := by
    intro volta member
    have := later.le volta member
    omega
  have expired : first.ending.target < (2 : Nat) := by omega
  -- On the second pass the mark behind the first volta is met with the repeat still active.
  have ended : score.Continues ⟨some opening, 2, true⟩ (.bar (.line .repeatClose) :: _)
      (.barLine :: .barLine :: _) := .step rfl fun _ _ => continues_closed nonempty ahead true
  have skipped : score.Continues ⟨some opening, 2, false⟩ (first.bracketed ++ _) (.barLine :: _) :=
    .volta_skipped expired (ended.trans (.repeated_bar _))
  have second := skipped.played plain rfl
  rw [← behind] at second
  have back : (RepeatState.mk (some opening) 1 false).sentBack? (.bar (.line .repeatClose)) =
      some opening := rfl
  rw [behind]
  exact continues_pass plain (List.forall_mem_nil _) due (.sentBack back second)

private theorem isPlain_writtenOut (strophes : Strophes) (times : Nat) :
    ∀ item ∈ (strophes.writtenOut times).items, item.isPlain = true := by
  simp only [writtenOut, List.forall_mem_append, List.forall_mem_flatMap, List.forall_mem_cons]
  have plain_bar : ∀ item ∈ ([] : List Item), item.isPlain = true := List.forall_mem_nil _
  exact ⟨fun volta _ => ⟨⟨strophes.plain, rfl, volta.plain⟩, rfl, plain_bar⟩,
    fun volta _ => ⟨volta.plain, rfl, plain_bar⟩⟩

private theorem performed_closed (strophes : Strophes) :
    Alike strophes.closed.performed (.barLine :: (strophes.writtenOut 2).items) := by
  obtain ⟨body, voltas, plain, nonempty, numbered⟩ := strophes
  obtain ⟨first, rest, rfl⟩ := List.exists_cons_of_ne_nil nonempty
  refine Score.performed_of_opened rfl fun opening behind => ?_
  cases rest with
  | nil =>
    have ended : (closed ⟨body, [first], plain, nonempty, numbered⟩).Continues
        ⟨some opening, 1, false⟩ [.barLine] [.barLine] := .step rfl fun _ _ => .nil
    have once := continues_pass plain (List.forall_mem_nil _) numbered.1 ended
    rw [behind]
    simpa [writtenOut] using once
  | cons second more =>
    have twice := continues_twice plain (List.cons_ne_nil second more) numbered
      (behind.trans (by simp))
    simpa [writtenOut] using twice

end Strophes

/-- Voltas with closing marks: the body is played in front of the first two voltas only. -/
theorem Converter.convert_closed {ε : Type} [Encodes ε] (converter : Converter ε)
    (strophes : Strophes) :
    (converter.convert strophes.closed).result =
      (converter.convert (strophes.writtenOut 2)).result := by
  refine converter.result_eq_of_alike (strophes.find?_writtenOut Nat.two_pos).symm ?_
  rw [Score.performed_of_isPlain (strophes.isPlain_writtenOut 2)]
  exact (strophes.performed_closed.cons _).trans (Alike.repeated_bar _)

/-- Of three voltas with closing marks the last one is played without the body before it. -/
theorem Converter.convert_closed_threefold :
    (Converter.usual.convert Strophes.threefold.closed).result ≠
      (Converter.usual.convert (Strophes.threefold.writtenOut 3)).result := by
  intro same
  have counts := congrArg (fun result => result.toOption.map fun track => track.events.length) same
  have fewer : ((Converter.usual.convert Strophes.threefold.closed).result.toOption.map
      fun track => track.events.length) = some 11 := by decide +kernel
  have more : ((Converter.usual.convert (Strophes.threefold.writtenOut 3)).result.toOption.map
      fun track => track.events.length) = some 13 := by decide +kernel
  rw [fewer, more] at counts
  cases counts

end ScorePlayback
