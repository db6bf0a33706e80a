import Federation.Proofs.Resolution.Mirroring
import Mathlib.Order.WellFounded

/-!
# Every resolution comes to an end

A fetcher may answer differently each time it is asked, and name superiors that nobody has heard of before.
Whatever it does, the search stops: a step uses up a hint, and what it may put on the path instead is bounded
by the room that is left.

**Steps.**  `Search.GoesOn` is a step of any resolver, so the fetcher and the verifier may be others at each
step.  It is well-founded (`Search.wellFounded_goesOn`), because the effort that is left does not depend on
the answers.

**Runs.**  `Search.exists_within` finds the number of steps after which a search is over; more steps change
nothing (`Search.within_of_le`).

**Resolutions.**  `Resolver.Terminates` says this of a whole resolution, and `Resolver.terminates` proves it
of all of them.
-/

namespace Federation

variable {σ : Type} {r : Resolver σ} {goal : Goal}

/-! ### Steps -/

namespace Search

variable {s final : Search σ goal.room} {result : Except Failure (List Statement)} {m n : Nat}

/-- A step that does not end the search, with some fetcher and some verifier. -/
def GoesOn (goal : Goal) (s next : Search σ goal.room) : Prop :=
  ∃ r : Resolver σ, step r goal s = .onward next

/-- Whoever answers, the effort goes down. -/
lemma wellFounded_goesOn (goal : Goal) :
    WellFounded fun next s : Search σ goal.room => GoesOn goal s next := by
  refine Subrelation.wf ?_ (InvImage.wf effort Effort.wellFounded)
  rintro next s ⟨r, went⟩
  exact effort_lt_of_step went

/-- A search does not go on for ever. -/
lemma not_endless (goal : Goal) :
    ¬ ∃ states : Nat → Search σ goal.room, ∀ n, GoesOn goal (states n) (states (n + 1)) := by
  rintro ⟨states, goes_on⟩
  have wellFounded : WellFounded fun next s : Search σ goal.room => GoesOn goal s next :=
    wellFounded_goesOn goal
  exact (wellFounded_iff_isEmpty_descending_chain.mp wellFounded).elim ⟨states, goes_on⟩

/-! ### Runs -/

lemma exists_within (r : Resolver σ) (s : Search σ goal.room) :
    ∃ n result final, within r goal n s = .done result final := by
  induction s using (wellFounded_goesOn goal).induction with
  | _ s ih =>
      cases went : step r goal s with
      | done result final => exact ⟨1, result, final, by rw [within, went]⟩
      | onward next =>
          obtain ⟨n, result, final, ended⟩ := ih next ⟨r, went⟩
          exact ⟨n + 1, result, final, by rw [within, went]; exact ended⟩

/-- A search that is over stays as it is. -/
lemma within_of_le (ended : within r goal n s = .done result final) (le : n ≤ m) :
    within r goal m s = .done result final := by
  induction n generalizing m s with
  | zero => cases ended
  | succ n ih =>
      obtain ⟨m, rfl⟩ := Nat.exists_eq_add_of_le' (Nat.lt_of_lt_of_le n.succ_pos le)
      rw [within] at ended ⊢
      cases went : step r goal s with
      | done result' final' =>
          rw [went] at ended
          exact ended
      | onward next =>
          rw [went] at ended
          exact ih ended (Nat.le_of_succ_le_succ le)

end Search

/-! ### Resolutions -/

namespace Resolver

/-- A resolution comes to an end, however its requests are answered. -/
structure Terminates (r : Resolver σ) (goal : Goal) (source : σ) : Prop where
  /-- No search goes on for ever, even if fetcher and verifier are replaced at every step. -/
  not_endless : ¬ ∃ states : Nat → Search σ goal.room,
    ∀ n, Search.GoesOn goal (states n) (states (n + 1))
  /-- A search that begins is over after some number of steps, and its end is the end of the resolution. -/
  searched : Searches goal → ∃ n result final,
    (∀ m ≥ n, Search.within r goal m
      (Search.start goal ⟨source, none⟩ [.passed .start .resolving]) = .done result final) ∧
    r.resolve goal source = afterSearch goal (result, final)
  /-- If no search begins, nothing is repeated, and nobody is asked. -/
  unsearched : ¬ Searches goal → ∀ r' : Resolver σ, r'.resolve goal source = r.resolve goal source
  /-- What is returned is a chain or a failure. -/
  returns : (∃ chain, (r.resolve goal source).result = .ok chain) ∨
    ∃ failure, (r.resolve goal source).result = .error failure

/-- **Every resolution comes to an end**, with a chain or a failure. -/
theorem terminates (r : Resolver σ) (goal : Goal) (source : σ) : r.Terminates goal source := by
  refine { not_endless := ?_, searched := ?_, unsearched := ?_, returns := ?_ }
  · exact Search.not_endless goal
  · rintro ⟨self_issued, current, other⟩
    obtain ⟨n, result, final, ended⟩ :=
      Search.exists_within r (Search.start goal ⟨source, none⟩ [.passed .start .resolving])
    refine ⟨n, result, final, fun m le => Search.within_of_le ended le, ?_⟩
    rw [resolve_eq_afterSearch self_issued current other, searchFrom, Search.run_eq_of_within ended]
  · intro idle r'
    obtain ⟨unasked, same⟩ := resolve_of_not_searches idle r r' source source
    rw [same]
    generalize r.resolve goal source = outcome at unasked
    rw [← unasked]
  · cases (r.resolve goal source).result with
    | ok chain => exact .inl ⟨chain, rfl⟩
    | error failure => exact .inr ⟨failure, rfl⟩

end Resolver

end Federation
