import Federation.Proofs.Resolution.Table

/-!
# What a search without a path reports

A search that does not reach the anchor reports one of the failures it met on the way.  It keeps a
single record, which goes up and down the stack with it.  What it reports can be told from the hints
it has tried, without that record.

**Attempts.**  An `Attempt` is a hint that was tried, with the number of entities on the path and what
came of it.  `Search.attempts` are those of a whole run, and the events of the run list the same ones
(`Search.events_of_run`).  A search that does not reach the anchor has tried everything
(`Search.tried_of_run`).

**The record.**  `Search.Specific` says which failure is the most specific one: it occurred deepest,
of several the first.  `Search.Noted.step` is the step, and `Search.result_of_run` ties the record to
the attempts.

**The report.**  `Resolver.reported_of_resolve` puts this together.  An entity may be admitted and
lead nowhere without any failure, so not every attempt has failed when there is no trust path
(`Table.admitted_deadEnd`).
-/

namespace Federation

variable {σ : Type} {r : Resolver σ} {goal : Goal} {source : σ}

/-! ### Attempts -/

/-- A hint that was tried. -/
structure Attempt where
  hint : EntityId
  /-- The number of entities on the path when the hint was tried. -/
  depth : Nat
  /-- Where the hint leads, or why it leads nowhere. -/
  answer : Except Failure Admission

namespace Attempt

/-- The attempt fails, and not because something could not be fetched. -/
def Fails (attempt : Attempt) (failure : Failure) : Prop :=
  attempt.answer = .error failure ∧ failure.isFetch = false

/-- Something could not be fetched. -/
def Unfetched (attempt : Attempt) : Prop :=
  ∃ failure, attempt.answer = .error failure ∧ failure.isFetch = true

/-- The hint is taken for a further entity. -/
def Admits (attempt : Attempt) (frame : Frame) : Prop :=
  attempt.answer = .ok (.superior frame)

/-- The hint leads to the anchor. -/
def Reaches (attempt : Attempt) : Prop :=
  ∃ configuration vouching, attempt.answer = .ok (.anchor configuration vouching)

/-- What is recorded of an attempt. -/
def events (attempt : Attempt) : List Event :=
  match attempt.answer with
  | .error failure => [.tried attempt.hint attempt.depth, .refused attempt.hint attempt.depth failure]
  | .ok _ => [.tried attempt.hint attempt.depth]

end Attempt

/-- Whether a hint is tried or refused. -/
def Event.isTrial : Event → Bool
  | tried _ _ => true
  | refused _ _ _ => true
  | _ => false

namespace Search

/-- The attempt that the next step makes, if there is a hint left on top. -/
def attempt? (r : Resolver σ) (goal : Goal) (s : Search σ goal.room) : Option Attempt :=
  match s.frames with
  | [] => none
  | top :: lower =>
    top.untried.head?.map fun hint =>
      { hint
        depth := (top :: lower).length
        answer := (attempt r goal top lower hint s.knowledge).1 }

/-- The attempts of a whole run, in order. -/
def attempts (r : Resolver σ) (goal : Goal) (s : Search σ goal.room) : List Attempt :=
  (attempt? r goal s).toList ++
    match _ : step r goal s with
    | .done _ _ => []
    | .onward next => attempts r goal next
termination_by s.effort
decreasing_by exact effort_lt_of_step ‹_›

lemma attempts_of_done {s final : Search σ goal.room} {result : Except Failure (List Statement)}
    (h : step r goal s = .done result final) :
    attempts r goal s = (attempt? r goal s).toList := by
  rw [attempts]
  split
  · exact List.append_nil _
  · rename_i next h'
    rw [h] at h'
    cases h'

lemma attempts_of_onward {s next : Search σ goal.room} (h : step r goal s = .onward next) :
    attempts r goal s = (attempt? r goal s).toList ++ attempts r goal next := by
  rw [attempts]
  split
  · rename_i result final h'
    rw [h] at h'
    cases h'
  · rename_i next' h'
    rw [h] at h'
    cases h'
    rfl

/-- What the attempts of a run are, read off the kind of step it begins with. -/
lemma attempt?_of_hint {s : Search σ goal.room} {top : Frame} {lower : List Frame} {hint : EntityId}
    {untried : List EntityId} {answer : Except Failure Admission} {known : Knowledge σ}
    (frames : s.frames = top :: lower) (some_left : top.untried = hint :: untried)
    (attempted : attempt r goal top lower hint s.knowledge = (answer, known)) :
    attempt? r goal s = some ⟨hint, lower.length + 1, answer⟩ := by
  rw [attempt?, frames]
  simp only [some_left, List.head?_cons, Option.map_some, attempted]
  rfl

lemma attempt?_of_exhausted {s : Search σ goal.room} {top : Frame} {lower : List Frame}
    (frames : s.frames = top :: lower) (none_left : top.untried = []) : attempt? r goal s = none := by
  rw [attempt?, frames]
  simp [none_left]

/-- A run is followed backwards together with its attempts. -/
theorem attempts_induction
    {P : Search σ goal.room → List Attempt →
      Except Failure (List Statement) × Search σ goal.room → Prop}
    (done : ∀ s result final, Stepped r goal s (.done result final) →
      P s (attempt? r goal s).toList (result, final))
    (onward : ∀ s next attempts outcome, Stepped r goal s (.onward next) → P next attempts outcome →
      P s ((attempt? r goal s).toList ++ attempts) outcome)
    (s : Search σ goal.room) : P s (attempts r goal s) (run r goal s) := by
  refine run_induction (P := fun s outcome => P s (attempts r goal s) outcome) ?_ ?_ s
  · intro s result final ended
    rw [attempts_of_done ended.eq_step]
    exact done s result final ended
  · intro s next outcome went ih
    rw [attempts_of_onward went.eq_step]
    exact onward s next _ outcome went ih

/-- **The record lists the attempts.** -/
theorem events_of_run (s : Search σ goal.room) :
    (run r goal s).2.events.reverse.filter Event.isTrial =
      s.events.reverse.filter Event.isTrial ++ (attempts r goal s).flatMap Attempt.events := by
  refine attempts_induction (P := fun s attempts outcome =>
    outcome.2.events.reverse.filter Event.isTrial =
      s.events.reverse.filter Event.isTrial ++ attempts.flatMap Attempt.events) ?done ?onward s
  case done =>
    intro s result final stepped
    cases stepped with
    | empty frames => simp [attempt?, frames]
    | arrived frames some_left attempted _ _ final_events =>
        rw [attempt?_of_hint frames some_left attempted, final_events]
        simp [Event.isTrial, Attempt.events]
  case onward =>
    intro s next attempts outcome stepped ih
    rw [ih]
    cases stepped with
    | exhausted frames none_left _ _ _ next_events =>
        rw [attempt?_of_exhausted frames none_left, next_events]
        simp [Event.isTrial]
    | refused frames some_left attempted _ _ next_events =>
        rw [attempt?_of_hint frames some_left attempted, next_events]
        simp [List.filter_cons, Event.isTrial, Attempt.events]
    | pushed frames some_left attempted _ _ next_events =>
        rw [attempt?_of_hint frames some_left attempted, next_events]
        simp [List.filter_cons, Event.isTrial, Attempt.events]

/-- A hint is among those that were tried. -/
def Tried (attempts : List Attempt) (hint : EntityId) : Prop :=
  ∃ attempt ∈ attempts, attempt.hint = hint

lemma Tried.cons {attempts : List Attempt} {hint : EntityId} (attempt : Attempt)
    (tried : Tried attempts hint) : Tried (attempt :: attempts) hint := by
  obtain ⟨other, mem, same⟩ := tried
  exact ⟨other, List.mem_cons_of_mem attempt mem, same⟩

/-- If the hints that are left are tried later on, all hints of the stack are. -/
lemma tried_of_taken {top : Frame} {lower : List Frame} {untried : List EntityId}
    {attempts : List Attempt} (attempt : Attempt) (some_left : top.untried = attempt.hint :: untried)
    (later : ∀ frame ∈ taken top untried :: lower, ∀ hint ∈ frame.untried, Tried attempts hint) :
    ∀ frame ∈ top :: lower, ∀ hint ∈ frame.untried, Tried (attempt :: attempts) hint := by
  intro frame mem hint listed
  rcases List.mem_cons.mp mem with rfl | mem
  · rw [some_left] at listed
    rcases List.mem_cons.mp listed with rfl | listed
    · exact ⟨attempt, List.mem_cons_self, rfl⟩
    · exact (later _ List.mem_cons_self hint listed).cons attempt
  · exact (later frame (List.mem_cons_of_mem _ mem) hint listed).cons attempt

/-- **A search that does not reach the anchor has tried everything**: the hints on its stack and those of
every entity it has admitted. -/
theorem tried_of_run (s : Search σ goal.room)
    (unreached : ∀ attempt ∈ attempts r goal s, ¬ attempt.Reaches) :
    (∀ frame ∈ s.frames, ∀ hint ∈ frame.untried, Tried (attempts r goal s) hint) ∧
      ∀ attempt ∈ attempts r goal s, ∀ frame, attempt.Admits frame → ∀ hint ∈ frame.untried,
        Tried (attempts r goal s) hint := by
  revert unreached
  refine attempts_induction (P := fun s attempts _ => (∀ attempt ∈ attempts, ¬ attempt.Reaches) →
    (∀ frame ∈ s.frames, ∀ hint ∈ frame.untried, Tried attempts hint) ∧
      ∀ attempt ∈ attempts, ∀ frame, attempt.Admits frame → ∀ hint ∈ frame.untried,
        Tried attempts hint) ?done ?onward s
  case done =>
    intro s result final stepped unreached
    cases stepped with
    | empty frames => simp [attempt?, frames]
    | arrived frames some_left attempted =>
        have tried := attempt?_of_hint frames some_left attempted
        exact absurd ⟨_, _, rfl⟩ (unreached _ (by rw [tried]; exact List.mem_singleton_self _))
  case onward =>
    intro s next attempts outcome stepped ih unreached
    obtain ⟨on_stack, admitted⟩ := ih fun attempt mem =>
      unreached attempt (List.mem_append_right _ mem)
    cases stepped with
    | exhausted frames none_left next_frames =>
        rw [attempt?_of_exhausted frames none_left, frames]
        rw [next_frames] at on_stack
        refine ⟨fun frame mem => ?_, admitted⟩
        rcases List.mem_cons.mp mem with rfl | mem
        · simp [none_left]
        · exact on_stack frame mem
    | refused frames some_left attempted next_frames =>
        rw [attempt?_of_hint frames some_left attempted, frames]
        rw [next_frames] at on_stack
        refine ⟨tried_of_taken _ some_left on_stack, fun attempt mem frame admits hint listed => ?_⟩
        rcases List.mem_cons.mp mem with rfl | mem
        · cases admits
        · exact (admitted attempt mem frame admits hint listed).cons _
    | pushed frames some_left attempted next_frames =>
        rw [attempt?_of_hint frames some_left attempted, frames]
        rw [next_frames] at on_stack
        refine ⟨tried_of_taken _ some_left fun frame mem =>
          on_stack frame (List.mem_cons_of_mem _ mem), fun attempt mem frame admits hint listed => ?_⟩
        rcases List.mem_cons.mp mem with rfl | mem
        · cases admits
          exact (on_stack _ List.mem_cons_self hint listed).cons _
        · exact (admitted attempt mem frame admits hint listed).cons _

/-! ### The record -/

/-- The failure occurred deepest among those that are no fetch failures, of several the first. -/
def Specific (attempts : List Attempt) (depth : Nat) (failure : Failure) : Prop :=
  ∃ earlier attempt later, attempts = earlier ++ attempt :: later ∧
    attempt.depth = depth ∧ attempt.Fails failure ∧
    (∀ other ∈ earlier, ∀ failure', other.Fails failure' → other.depth < depth) ∧
    ∀ other ∈ later, ∀ failure', other.Fails failure' → other.depth ≤ depth

lemma Specific.depth_le {attempts : List Attempt} {depth : Nat} {failure failure' : Failure}
    {other : Attempt} (specific : Specific attempts depth failure) (mem : other ∈ attempts)
    (fails : other.Fails failure') : other.depth ≤ depth := by
  obtain ⟨earlier, attempt, later, rfl, at_depth, _, before, after⟩ := specific
  rcases List.mem_append.mp mem with mem | mem
  · exact Nat.le_of_lt (before other mem failure' fails)
  · rcases List.mem_cons.mp mem with rfl | mem
    · exact Nat.le_of_eq at_depth
    · exact after other mem failure' fails

/-- The record after an attempt. -/
def note (deepest : Option (Nat × Failure)) (attempt : Attempt) : Option (Nat × Failure) :=
  match attempt.answer with
  | .error failure => record deepest attempt.depth failure
  | .ok _ => deepest

/-- The record after some attempts holds the most specific failure, if there is any. -/
def Noted (attempts : List Attempt) : Option (Nat × Failure) → Prop
  | none => ∀ attempt ∈ attempts, ∀ failure, ¬ attempt.Fails failure
  | some (depth, failure) => Specific attempts depth failure

namespace Noted

variable {tried : List Attempt} {deepest : Option (Nat × Failure)} {attempt : Attempt}

/-- An attempt that does not count leaves the record as it is. -/
lemma keep (noted : Noted tried deepest) (idle : ∀ failure, ¬ attempt.Fails failure) :
    Noted (tried ++ [attempt]) deepest := by
  cases deepest with
  | none =>
      intro other mem failure fails
      rcases List.mem_append.mp mem with mem | mem
      · exact noted other mem failure fails
      · exact idle failure (List.mem_singleton.mp mem ▸ fails)
  | some deepest =>
      obtain ⟨earlier, first, later, rfl, at_depth, fails, before, after⟩ := noted
      refine ⟨earlier, first, later ++ [attempt], by simp, at_depth, fails, before, ?_⟩
      intro other mem failure' fails'
      rcases List.mem_append.mp mem with mem | mem
      · exact after other mem failure' fails'
      · exact absurd (List.mem_singleton.mp mem ▸ fails') (idle failure')

/-- An attempt that is not deeper than the record leaves it as it is. -/
lemma keep_deepest {depth : Nat} {failure : Failure} (noted : Noted tried (some (depth, failure)))
    (not_deeper : attempt.depth ≤ depth) : Noted (tried ++ [attempt]) (some (depth, failure)) := by
  obtain ⟨earlier, first, later, rfl, at_depth, fails, before, after⟩ := noted
  refine ⟨earlier, first, later ++ [attempt], by simp, at_depth, fails, before, ?_⟩
  intro other mem failure' fails'
  rcases List.mem_append.mp mem with mem | mem
  · exact after other mem failure' fails'
  · exact List.mem_singleton.mp mem ▸ not_deeper

/-- A failure deeper than all before it is the most specific one. -/
lemma replace {failure : Failure} (fails : attempt.Fails failure)
    (deeper : ∀ other ∈ tried, ∀ failure', other.Fails failure' → other.depth < attempt.depth) :
    Noted (tried ++ [attempt]) (some (attempt.depth, failure)) :=
  ⟨tried, attempt, [], rfl, rfl, fails, deeper, fun _ mem => absurd mem List.not_mem_nil⟩

/-- **One more attempt**, and the record holds the most specific failure again. -/
theorem step (noted : Noted tried deepest) (attempt : Attempt) :
    Noted (tried ++ [attempt]) (note deepest attempt) := by
  unfold note
  split
  · rename_i failure answered
    unfold record
    split
    · rename_i fetching
      refine noted.keep ?_
      rintro other ⟨answered', counts⟩
      rw [answered] at answered'
      cases answered'
      rw [fetching] at counts
      cases counts
    · rename_i counts
      have fails : attempt.Fails failure := ⟨answered, by simpa using counts⟩
      split
      · exact replace fails fun other mem failure' fails' => absurd fails' (noted other mem failure')
      · rename_i depth failure'
        split
        · rename_i deeper
          exact replace fails fun other mem _ fails' =>
            Nat.lt_of_le_of_lt (Specific.depth_le noted mem fails') deeper
        · rename_i not_deeper
          exact noted.keep_deepest (Nat.le_of_not_lt not_deeper)
  · rename_i admission answered
    refine noted.keep ?_
    rintro failure ⟨answered', _⟩
    rw [answered] at answered'
    cases answered'

/-- The record after a whole list of attempts. -/
lemma foldl (attempts : List Attempt) (noted : Noted tried deepest) :
    Noted (tried ++ attempts) (attempts.foldl note deepest) := by
  induction attempts generalizing tried deepest with
  | nil => rwa [List.append_nil]
  | cons attempt rest ih => simpa using ih (noted.step attempt)

end Noted

/-- **A search that does not reach the anchor reports what its attempts leave on record.** -/
theorem result_of_run (s : Search σ goal.room)
    (unreached : ∀ attempt ∈ attempts r goal s, ¬ attempt.Reaches) :
    (run r goal s).1 = .error (noPath goal ((attempts r goal s).foldl note s.deepest)) := by
  revert unreached
  refine attempts_induction (P := fun s attempts outcome =>
    (∀ attempt ∈ attempts, ¬ attempt.Reaches) →
      outcome.1 = .error (noPath goal (attempts.foldl note s.deepest))) ?done ?onward s
  case done =>
    intro s result final stepped unreached
    cases stepped with
    | empty frames => simp [attempt?, frames]
    | arrived frames some_left attempted =>
        have tried := attempt?_of_hint frames some_left attempted
        exact absurd ⟨_, _, rfl⟩ (unreached _ (by rw [tried]; exact List.mem_singleton_self _))
  case onward =>
    intro s next attempts outcome stepped ih unreached
    rw [ih fun attempt mem => unreached attempt (List.mem_append_right _ mem)]
    cases stepped with
    | exhausted frames none_left _ _ next_deepest =>
        rw [attempt?_of_exhausted frames none_left, next_deepest]
        rfl
    | refused frames some_left attempted _ next_deepest =>
        rw [attempt?_of_hint frames some_left attempted, next_deepest]
        rfl
    | pushed frames some_left attempted _ next_deepest =>
        rw [attempt?_of_hint frames some_left attempted, next_deepest]
        rfl

end Search

/-! ### The report -/

namespace Resolver

/-- The attempts of a resolution. -/
def attempts (r : Resolver σ) (goal : Goal) (source : σ) : List Attempt :=
  Search.attempts r goal (Search.start goal ⟨source, none⟩ [.passed .start .resolving])

lemma failIn_trials (phase : Phase) (failure : Failure) :
    (failIn phase failure).filter Event.isTrial = [] := by
  unfold failIn
  split
  · rfl
  · rfl

/-- A resolution whose attempts do not reach the anchor ends with what they leave on record, and it
records them in order. -/
lemma resolve_of_unreached (self_issued : goal.leaf.isSelfIssued = true)
    (current : goal.leaf.Current goal.now) (other : goal.leaf.subject ≠ goal.anchor)
    (unreached : ∀ attempt ∈ r.attempts goal source, ¬ attempt.Reaches) :
    (r.resolve goal source).result =
        .error (Search.noPath goal ((r.attempts goal source).foldl Search.note none)) ∧
      (r.resolve goal source).events.filter Event.isTrial =
        (r.attempts goal source).flatMap Attempt.events := by
  have resolved : r.resolve goal source = afterSearch goal (r.searchFrom goal source) :=
    resolve_eq_afterSearch self_issued current other
  have events : (r.searchFrom goal source).2.events.reverse.filter Event.isTrial =
      (r.attempts goal source).flatMap Attempt.events := Search.events_of_run _
  have found : (r.searchFrom goal source).1 =
      .error (Search.noPath goal ((r.attempts goal source).foldl Search.note none)) :=
    Search.result_of_run _ unreached
  have searched : r.searchFrom goal source = (_, _) := Prod.ext found rfl
  rw [resolved, searched]
  refine ⟨rfl, ?_⟩
  show ((r.searchFrom goal source).2.events.reverse ++ failIn .resolving _).filter Event.isTrial = _
  rw [List.filter_append, failIn_trials, List.append_nil, events]

/-- An attempt that counts for nothing has failed on a fetch or is admitted. -/
lemma unfetched_or_admits {attempt : Attempt} (unreached : ¬ attempt.Reaches)
    (idle : ∀ failure, ¬ attempt.Fails failure) : attempt.Unfetched ∨ ∃ frame, attempt.Admits frame := by
  cases answered : attempt.answer with
  | error failure =>
      refine .inl ⟨failure, answered, ?_⟩
      cases fetching : failure.isFetch with
      | true => rfl
      | false => exact absurd ⟨answered, fetching⟩ (idle failure)
  | ok admission =>
      cases admission with
      | anchor configuration vouching => exact absurd ⟨_, _, answered⟩ unreached
      | superior frame => exact .inr ⟨frame, answered⟩

/-- **A resolution that does not reach the anchor reports the most specific failure.**  Of the attempts
that fail other than on a fetch it is the deepest one, of several the first; if there is none, there is
no trust path.  A fetch failure is never reported.  If no trust path is reported, and not because an
attempt has failed with these words, every attempt has failed on a fetch or leads to an entity from
which all hints have been tried in vain. -/
theorem reported_of_resolve (self_issued : goal.leaf.isSelfIssued = true)
    (current : goal.leaf.Current goal.now) (other : goal.leaf.subject ≠ goal.anchor)
    (unreached : ∀ attempt ∈ r.attempts goal source, ¬ attempt.Reaches) :
    (r.resolve goal source).events.filter Event.isTrial =
      (r.attempts goal source).flatMap Attempt.events ∧
    ∃ failure, (r.resolve goal source).result = .error failure ∧ failure.isFetch = false ∧
      ((∃ attempt ∈ r.attempts goal source, ∃ mistake, attempt.Fails mistake) →
        ∃ depth, Search.Specific (r.attempts goal source) depth failure) ∧
      ((∀ attempt ∈ r.attempts goal source, ∀ mistake, ¬ attempt.Fails mistake) →
        failure = .noTrustPath goal.leaf.subject goal.anchor) ∧
      (failure = .noTrustPath goal.leaf.subject goal.anchor →
        (∃ attempt ∈ r.attempts goal source, attempt.Fails failure) ∨
        (∀ hint ∈ goal.leaf.hints, Search.Tried (r.attempts goal source) hint) ∧
          ∀ attempt ∈ r.attempts goal source, attempt.Unfetched ∨
            ∃ frame, attempt.Admits frame ∧
              ∀ hint ∈ frame.untried, Search.Tried (r.attempts goal source) hint) := by
  obtain ⟨result, events⟩ := resolve_of_unreached self_issued current other unreached
  refine ⟨events, _, result, ?_⟩
  have noted : Search.Noted (r.attempts goal source)
      ((r.attempts goal source).foldl Search.note none) := by
    have nothing : Search.Noted [] none := fun _ mem => absurd mem List.not_mem_nil
    exact nothing.foldl (r.attempts goal source)
  obtain ⟨on_stack, admitted⟩ := Search.tried_of_run _ unreached
  cases record : (r.attempts goal source).foldl Search.note none with
  | none =>
      rw [record] at noted
      refine ⟨rfl, ?_, fun _ => rfl, fun _ => .inr ⟨?_, fun attempt mem => ?_⟩⟩
      · rintro ⟨attempt, mem, mistake, fails⟩
        exact absurd fails (noted attempt mem mistake)
      · exact on_stack _ (List.mem_singleton_self _)
      · exact (unfetched_or_admits (unreached attempt mem) (noted attempt mem)).imp_right
          fun ⟨frame, admits⟩ => ⟨frame, admits, admitted attempt mem frame admits⟩
  | some deepest =>
      obtain ⟨depth, failure⟩ := deepest
      rw [record] at noted
      obtain ⟨earlier, attempt, later, split, _, fails, _⟩ := id noted
      have mem : attempt ∈ r.attempts goal source := by
        rw [split]
        exact List.mem_append_right _ List.mem_cons_self
      exact ⟨fails.2, fun _ => ⟨depth, noted⟩, fun idle => absurd fails (idle attempt mem failure),
        fun _ => .inl ⟨attempt, mem, fails⟩⟩

end Resolver

/-! ### Evaluation -/

namespace Attempt

instance (attempt : Attempt) : Decidable attempt.Reaches :=
  match answered : attempt.answer with
  | .ok (.anchor configuration vouching) => isTrue ⟨configuration, vouching, answered⟩
  | .ok (.superior frame) => isFalse fun ⟨_, _, answered'⟩ => by cases answered.symm.trans answered'
  | .error failure => isFalse fun ⟨_, _, answered'⟩ => by cases answered.symm.trans answered'

instance (attempt : Attempt) : Decidable (∃ frame, attempt.Admits frame) :=
  match answered : attempt.answer with
  | .ok (.superior frame) => isTrue ⟨frame, answered⟩
  | .ok (.anchor _ _) => isFalse fun ⟨_, answered'⟩ => by cases answered.symm.trans answered'
  | .error _ => isFalse fun ⟨_, answered'⟩ => by cases answered.symm.trans answered'

instance (attempt : Attempt) : Decidable (∃ failure, attempt.Fails failure) :=
  match answered : attempt.answer with
  | .error failure =>
    if counts : failure.isFetch = false then isTrue ⟨failure, answered, counts⟩
    else isFalse fun ⟨_, answered', counts'⟩ => by
      cases answered.symm.trans answered'
      exact counts counts'
  | .ok _ => isFalse fun ⟨_, answered', _⟩ => by cases answered.symm.trans answered'

end Attempt

namespace Search

/-- The attempts of at most so many steps. -/
def attemptsWithin (r : Resolver σ) (goal : Goal) : Nat → Search σ goal.room → List Attempt
  | 0, _ => []
  | n + 1, s =>
    (attempt? r goal s).toList ++
      match step r goal s with
      | .onward next => attemptsWithin r goal n next
      | .done _ _ => []

lemma attempts_of_within {n : Nat} {s final : Search σ goal.room}
    {result : Except Failure (List Statement)} (h : within r goal n s = .done result final) :
    attempts r goal s = attemptsWithin r goal n s := by
  induction n generalizing s with
  | zero => cases h
  | succ n ih =>
      cases went : step r goal s with
      | onward next =>
          rw [within, went] at h
          rw [attempts_of_onward went, ih h, attemptsWithin, went]
      | done result' final' => rw [attempts_of_done went, attemptsWithin, went, List.append_nil]

end Search

namespace Resolver

/-- The attempts for a leaf other than the anchor, if the search takes at most so many steps. -/
def attemptsWithin (n : Nat) (r : Resolver σ) (goal : Goal) (source : σ) : Option (List Attempt) :=
  if goal.leaf.isSelfIssued = true ∧ goal.leaf.subject ≠ goal.anchor then
    match (do goal.leaf.checkValidity goal.now; goal.leaf.checkRequired : Except Failure Unit),
        Search.within r goal n (Search.start goal ⟨source, none⟩ [.passed .start .resolving]) with
    | .ok (), .done _ _ => some (Search.attemptsWithin r goal n
        (Search.start goal ⟨source, none⟩ [.passed .start .resolving]))
    | _, _ => none
  else none

lemma attempts_of_attemptsWithin {n : Nat} {attempts : List Attempt}
    (h : attemptsWithin n r goal source = some attempts) :
    goal.leaf.isSelfIssued = true ∧ goal.leaf.Current goal.now ∧
      goal.leaf.subject ≠ goal.anchor ∧ r.attempts goal source = attempts := by
  unfold attemptsWithin at h
  split at h
  · rename_i begun
    obtain ⟨self_issued, other⟩ := begun
    split at h
    · rename_i result final checked found
      obtain ⟨⟨⟩, valid, required⟩ := Except.bind_eq_ok_iff.mp checked
      cases h
      exact ⟨self_issued, ⟨valid, required⟩, other, Search.attempts_of_within found⟩
    · cases h
  · cases h

end Resolver

namespace Table

/-- A relying party whose superiors are a stranger that publishes nothing and an authority. -/
def strangerFirst : Entry :=
  configuration "https://party" "party" ["party"] ["https://stranger", "https://authority"]

/-- An authority that has the relying party for its own superior. -/
def circle : Table :=
  [configuration "https://authority" "authority" ["authority"] ["https://party"],
    vouching "https://authority" "https://party" "authority" ["party"]]

/-- The failure that is reported is that of the circle, the deepest attempt. -/
theorem reported_circle :
    ∃ leaf failure, Statement.ofClaims strangerFirst.claims = .ok leaf ∧
      (circle.resolver.resolve { terms "https://anchor" "root" with leaf } ()).result =
        .error failure ∧ failure.isFetch = false ∧
      ∃ depth, Search.Specific (circle.resolver.attempts { terms "https://anchor" "root" with leaf } ())
        depth failure := by
  have evaluated : ((Statement.ofClaims strangerFirst.claims).toOption.bind fun leaf =>
      (Resolver.attemptsWithin 7 circle.resolver { terms "https://anchor" "root" with leaf } ()).map
        fun attempts => (attempts.map fun attempt => (attempt.hint.text, attempt.depth),
          decide (∀ attempt ∈ attempts, ¬ attempt.Reaches),
          decide (∃ attempt ∈ attempts, ∃ mistake, attempt.Fails mistake))) =
      some ([("https://stranger", 1), ("https://authority", 1), ("https://party", 2)], true, true) := by
    decide +kernel
  obtain ⟨leaf, read, found⟩ := Option.bind_eq_some_iff.mp evaluated
  obtain ⟨attempts, found, marked⟩ := Option.map_eq_some_iff.mp found
  obtain ⟨self_issued, current, other, rfl⟩ := Resolver.attempts_of_attemptsWithin found
  simp only [Prod.mk.injEq, decide_eq_true_eq] at marked
  obtain ⟨_, unreached, some_fails⟩ := marked
  obtain ⟨_, failure, reported, not_fetch, specific, _⟩ :=
    Resolver.reported_of_resolve self_issued current other unreached
  exact ⟨leaf, failure, Except.toOption_eq_some_iff.mp read, reported, not_fetch,
    specific some_fails⟩

/-- An authority without superiors. -/
def deadEnd : Table :=
  [configuration "https://authority" "authority" ["authority"] [],
    vouching "https://authority" "https://party" "authority" ["party"]]

/-- A relying party whose only superior is this authority. -/
def authorityOnly : Entry :=
  configuration "https://party" "party" ["party"] ["https://authority"]

/-- **There can be no trust path although nothing has failed.** -/
theorem admitted_deadEnd :
    ∃ leaf, Statement.ofClaims authorityOnly.claims = .ok leaf ∧ leaf.isSelfIssued = true ∧
      leaf.Current 50 ∧ leaf.subject ≠ ⟨"https://anchor"⟩ ∧
      (deadEnd.resolver.resolve { terms "https://anchor" "root" with leaf } ()).result =
        .error (.noTrustPath leaf.subject ⟨"https://anchor"⟩) ∧
      ∃ attempt frame, deadEnd.resolver.attempts { terms "https://anchor" "root" with leaf } () =
        [attempt] ∧ attempt.Admits frame := by
  have evaluated : ((Statement.ofClaims authorityOnly.claims).toOption.bind fun leaf =>
      (Resolver.attemptsWithin 4 deadEnd.resolver { terms "https://anchor" "root" with leaf } ()).map
        fun attempts => attempts.map fun attempt => decide (∃ frame, attempt.Admits frame)) =
      some [true] := by
    decide +kernel
  obtain ⟨leaf, read, found⟩ := Option.bind_eq_some_iff.mp evaluated
  obtain ⟨attempts, found, marked⟩ := Option.map_eq_some_iff.mp found
  obtain ⟨self_issued, current, other, listed⟩ := Resolver.attempts_of_attemptsWithin found
  obtain ⟨attempt, rfl, admitted⟩ := List.map_eq_singleton_iff.mp marked
  rw [decide_eq_true_eq] at admitted
  obtain ⟨frame, admits⟩ := admitted
  have unreached : ∀ attempt ∈ deadEnd.resolver.attempts { terms "https://anchor" "root" with leaf } (),
      ¬ attempt.Reaches := by
    rw [listed]
    rintro attempt mem ⟨configuration, vouching, reaches⟩
    rw [List.mem_singleton.mp mem, admits] at reaches
    cases reaches
  obtain ⟨result, _⟩ := Resolver.resolve_of_unreached self_issued current other unreached
  refine ⟨leaf, Except.toOption_eq_some_iff.mp read, self_issued, current, other, ?_,
    attempt, frame, listed, admits⟩
  rw [result, listed, List.foldl_cons, Search.note, admits]
  rfl

end Table

end Federation
