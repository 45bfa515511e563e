import ScorePlayback.Proofs.Voltas

/-! Voltas without closing marks. Each pass skips the voltas before its own, and the volta after it
sends playback back, so the body and one volta after the other are played. -/

namespace ScorePlayback

namespace Strophes

/-- No volta is closed: each one itself sends playback back until its pass has come. -/
def unclosed (strophes : Strophes) : Score where
  items := .bar (.line .repeatOpen) :: strophes.body ++ strophes.voltas.flatMap Volta.bracketed

def inFull (strophes : Strophes) : Score where
  items := strophes.voltas.flatMap fun volta =>
    .barLine :: strophes.body ++ .barLine :: volta.items

theorem find?_inFull (strophes : Strophes) : strophes.inFull.find? = strophes.unclosed.find? := by
  funext id
  rw [Score.find?_eq, Score.find?_eq]
  simp only [inFull, unclosed, Volta.bracketed, Item.barLine, List.flatMap_append,
    List.flatMap_cons, List.flatMap_assoc, Item.notes_bar, List.nil_append, List.cons_append]
  exact find?_flatMap_front _ _ _ strophes.nonempty

variable {score : Score} {body : List Item} {pass : Nat} {gone rest : List Volta} {volta : Volta}

/-- From a pass on each volta is played after the body, and the next one sends playback back. -/
private theorem continues_unclosed {opening : Nat} (plain : ∀ item ∈ body, item.isPlain = true)
    (expired : ∀ volta ∈ gone, volta.ending.target < pass)
    (numbered : Volta.Numbered pass (volta :: rest))
    (behind : score.items.drop (opening + 1) =
      body ++ (gone ++ volta :: rest).flatMap Volta.bracketed) :
    score.Continues ⟨some opening, pass, false⟩ (score.items.drop (opening + 1))
      (body ++ .barLine :: (volta.items ++ rest.flatMap fun volta =>
        .barLine :: body ++ .barLine :: volta.items)) := by
  induction rest generalizing gone volta pass with
  | nil =>
    rw [behind, List.flatMap_append, List.flatMap_cons]
    exact continues_pass plain expired numbered.1 .nil
  | cons next more ih =>
    obtain ⟨due, awaited, further⟩ := numbered
    have earlier : ∀ other ∈ gone ++ [volta], other.ending.target < (pass + 1 : Nat) := by
      intro other member
      rcases List.mem_append.mp member with before | last
      · have := expired other before
        omega
      · obtain rfl := List.mem_singleton.mp last
        omega
    have again := ih earlier ⟨awaited, further⟩ (by
      rw [behind, List.append_assoc, List.singleton_append])
    have back : (RepeatState.mk (some opening) pass false).sentBack?
        (.bar (.ending next.ending)) = some opening := by
      refine RepeatState.sentBack?_eq_some_iff.mpr ⟨?_, rfl⟩
      change (pass : Int) < next.ending.target
      omega
    have later : score.Continues ⟨some opening, pass, false⟩
        (next.bracketed ++ more.flatMap Volta.bracketed) _ := .sentBack back again
    rw [behind, List.flatMap_append, List.flatMap_cons, List.flatMap_cons]
    simp only [List.flatMap_cons, List.cons_append, List.append_assoc] at later ⊢
    exact continues_pass plain expired due later

private theorem isPlain_inFull (strophes : Strophes) :
    ∀ item ∈ strophes.inFull.items, item.isPlain = true := by
  simp only [inFull, List.forall_mem_flatMap, List.forall_mem_append, List.forall_mem_cons]
  exact fun volta _ => ⟨⟨rfl, strophes.plain⟩, rfl, volta.plain⟩

private theorem performed_unclosed (strophes : Strophes) :
    Alike strophes.unclosed.performed strophes.inFull.items := by
  obtain ⟨body, voltas, plain, nonempty, numbered⟩ := strophes
  obtain ⟨first, rest, rfl⟩ := List.exists_cons_of_ne_nil nonempty
  have performed := Score.performed_of_opened rfl fun opening behind =>
    continues_unclosed plain (List.forall_mem_nil _) numbered behind
  simp only [inFull, List.flatMap_cons, List.cons_append, List.append_assoc]
  exact performed

end Strophes

/-- Voltas without closing marks: playback goes through the body and one volta after the other. -/
theorem Converter.convert_unclosed {ε : Type} [Encodes ε] (converter : Converter ε)
    (strophes : Strophes) :
    (converter.convert strophes.unclosed).result = (converter.convert strophes.inFull).result := by
  refine converter.result_eq_of_alike strophes.find?_inFull.symm (.cons _ ?_)
  rw [Score.performed_of_isPlain strophes.isPlain_inFull]
  exact strophes.performed_unclosed

/-- Six notes are heard, each with a start and an end, after the program has been chosen. -/
theorem Converter.convert_unclosed_threefold :
    (Converter.usual.convert Strophes.threefold.unclosed).result =
        (Converter.usual.convert Strophes.threefold.inFull).result ∧
      ((Converter.usual.convert Strophes.threefold.unclosed).result.toOption.map fun track =>
        track.events.length) = some 13 :=
  ⟨Converter.usual.convert_unclosed Strophes.threefold, by decide +kernel⟩

end ScorePlayback
