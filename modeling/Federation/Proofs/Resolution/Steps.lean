import Federation.Proofs.Checks
import Federation.Resolution.Search

/-!
# What a step of the search can do

The search is a loop over `Search.step`.  This file says once what a step does and what follows from
that for a whole run; no later proof opens the step function.

**Queries.**  `Query.bind_eq_ok_iff` splits a query that succeeds.  `Query.Keeps` is an invariant of
what is known, kept by queries that fail as well; `Resolver.examine_keeps` reduces it to the two queries
that change something.

**One step.**  `Search.attempt` is the fate of one hint: refused for a cycle or for want of room, or
examined.  `Search.Stepped` lists the five things a step can be, each with everything it changes.
`Search.stepped` says that every step is one of them, `Search.Stepped.eq_step` that it is only one.

**A whole run.**  `Search.run_induction` follows a run backwards from its end, and
`Search.run_invariant` carries an invariant forwards to the step that ends it.

**Runs of known length.**  `Search.within` makes a bounded number of steps by structural recursion, so
that a run on given statements can be evaluated; `Search.run_eq_of_within` ties it to `Search.run`.
-/

namespace Federation

variable {σ : Type}

/-! ### Queries -/

lemma Query.bind_apply {α β : Type} (x : Query σ α) (f : α → Query σ β) (known : Knowledge σ) :
    (x >>= f) known = ExceptT.bindCont f (x known).1 (x known).2 :=
  rfl

/-- A query that goes on after another one does so from what that one has learned. -/
lemma Query.bind_eq_ok_iff {α β : Type} {x : Query σ α} {f : α → Query σ β}
    {known known' : Knowledge σ} {b : β} :
    (x >>= f) known = (.ok b, known') ↔
      ∃ a mid, x known = (.ok a, mid) ∧ f a mid = (.ok b, known') :=
  ExceptT.bind_eq_ok_iff

lemma Query.pure_eq_ok_iff {α : Type} {a b : α} {known known' : Knowledge σ} :
    (pure a : Query σ α) known = (.ok b, known') ↔ a = b ∧ known = known' :=
  ExceptT.pure_eq_ok_iff

/-- A check leaves what is known alone. -/
lemma Query.judge_eq_ok_iff {α : Type} {verdict : Except Failure α} {a : α}
    {known known' : Knowledge σ} :
    Resolver.judge verdict known = (.ok a, known') ↔ verdict = .ok a ∧ known = known' := by
  constructor
  · intro h
    cases h
    exact ⟨rfl, rfl⟩
  · rintro ⟨rfl, rfl⟩
    rfl

/-- What a query keeps true of the knowledge it works with, whether it succeeds or not. -/
def Query.Keeps {α : Type} (P : Knowledge σ → Prop) (q : Query σ α) : Prop :=
  ∀ known, P known → P (q known).2

namespace Query.Keeps

variable {P : Knowledge σ → Prop} {α β : Type}

lemma judge (verdict : Except Failure α) : Keeps P (Resolver.judge verdict) :=
  fun _ holds => holds

lemma pure (a : α) : Keeps P (Pure.pure a : Query σ α) :=
  fun _ holds => holds

/-- The second query starts only if the first has succeeded. -/
lemma bind {x : Query σ α} {f : α → Query σ β} (first : Keeps P x)
    (second : ∀ a known, P known → ∀ mid, x known = (.ok a, mid) → P mid → P (f a mid).2) :
    Keeps P (x >>= f) := by
  intro known holds
  rw [bind_apply]
  have holds' := first known holds
  cases answered : x known with
  | mk answer mid =>
      rw [answered] at holds'
      cases answer with
      | error e => exact holds'
      | ok a => exact second a known holds mid answered holds'

/-- A second query that keeps the property anyway. -/
lemma andThen {x : Query σ α} {f : α → Query σ β} (first : Keeps P x)
    (second : ∀ a, Keeps P (f a)) : Keeps P (x >>= f) :=
  bind first fun a _ _ mid _ holds => second a mid holds

/-- Fetching changes nothing but the state of the fetcher. -/
lemma fetch {r : Resolver σ} {issuer subject : EntityId}
    (any : ∀ known source, P known → P { known with source := source }) :
    Keeps P (r.fetch issuer subject) :=
  fun known holds => any known _ holds

end Query.Keeps

/-! ### Looking at a hint -/

namespace Resolver

variable {r : Resolver σ} {goal : Goal} {P : Knowledge σ → Prop}

lemma fetchIssued_keeps (fetching : ∀ issuer subject, Query.Keeps P (r.fetch issuer subject))
    (issuer subject : EntityId) (keys : KeySet) :
    Query.Keeps P (r.fetchIssued issuer subject keys) :=
  (fetching issuer subject).andThen fun _ => .judge _

lemma fetchConfiguration_keeps
    (fetching : ∀ issuer subject, Query.Keeps P (r.fetch issuer subject)) (entity : EntityId) :
    Query.Keeps P (r.fetchConfiguration entity) :=
  (fetching entity entity).andThen fun _ => .judge _

lemma learn_keeps (fetching : ∀ issuer subject, Query.Keeps P (r.fetch issuer subject))
    (remembering : Query.Keeps P (r.anchorConfiguration goal)) (hint : EntityId) :
    Query.Keeps P (r.learn goal hint) := by
  unfold learn
  split
  · exact remembering.andThen fun _ => .pure _
  · exact (fetchConfiguration_keeps fetching hint).andThen fun _ => .pure _

/-- What fetching and remembering the anchor keep true, looking at a hint keeps true: all the rest of it
are checks. -/
lemma examine_keeps (fetching : ∀ issuer subject, Query.Keeps P (r.fetch issuer subject))
    (remembering : Query.Keeps P (r.anchorConfiguration goal)) (top : Frame) (hint : EntityId) :
    Query.Keeps P (r.examine goal top hint) := by
  refine (learn_keeps fetching remembering hint).andThen ?_
  rintro ⟨configuration, keys⟩
  refine (Query.Keeps.judge _).andThen fun _ => (Query.Keeps.judge _).andThen fun _ => ?_
  refine (fetchIssued_keeps fetching hint top.entity keys).andThen fun vouching => ?_
  refine (Query.Keeps.judge _).andThen fun allowance => ?_
  split
  · exact .pure _
  · exact (Query.Keeps.judge _).andThen fun _ => .pure _

end Resolver

/-! ### One step -/

/-- What a move consists of, without the bound on the path. -/
def Move.parts {room : Nat} : Move σ room →
    Option (Except Failure (List Statement)) × List Frame × Knowledge σ × Option (Nat × Failure) ×
      List Event
  | .onward s => (none, s.frames, s.knowledge, s.deepest, s.events)
  | .done result s => (some result, s.frames, s.knowledge, s.deepest, s.events)

/-- The bound on the path is no part of a move. -/
lemma Move.parts_injective {room : Nat} {move other : Move σ room} (h : move.parts = other.parts) :
    move = other := by
  cases move with
  | onward s =>
      cases other with
      | onward t =>
          cases s
          cases t
          cases h
          rfl
      | done result t => cases h
  | done result s =>
      cases other with
      | onward t => cases h
      | done result' t =>
          cases s
          cases t
          cases h
          rfl

namespace Search

variable {r : Resolver σ} {goal : Goal}

/-- The fate of one hint of the top entity. -/
def attempt (r : Resolver σ) (goal : Goal) (top : Frame) (lower : List Frame) (hint : EntityId) :
    Query σ Admission :=
  if (top :: lower).any fun frame => frame.entity == hint then Resolver.judge (.error (.cycle hint))
  else if (top :: lower).length < goal.maxHops then r.examine goal top hint
  else Resolver.judge (.error (.hopLimit goal.maxHops))

/-- A hint leads somewhere only if it is new on the path, there is room and it passes the checks. -/
lemma attempt_eq_ok_iff {top : Frame} {lower : List Frame} {hint : EntityId}
    {admission : Admission} {known known' : Knowledge σ} :
    attempt r goal top lower hint known = (.ok admission, known') ↔
      hint ∉ (top :: lower).map Frame.entity ∧ (top :: lower).length < goal.maxHops ∧
        r.examine goal top hint known = (.ok admission, known') := by
  have cycle_iff : (top :: lower).any (fun frame => frame.entity == hint) = true ↔
      hint ∈ (top :: lower).map Frame.entity := by
    simp only [List.any_eq_true, List.mem_map, beq_iff_eq]
  unfold attempt
  split
  · rename_i cycle
    constructor
    · intro h
      cases (Query.judge_eq_ok_iff.mp h).1
    · rintro ⟨fresh, _⟩
      exact absurd (cycle_iff.mp cycle) fresh
  · rename_i fresh
    split
    · rename_i free
      constructor
      · intro h
        exact ⟨fun mem => fresh (cycle_iff.mpr mem), free, h⟩
      · rintro ⟨_, _, h⟩
        exact h
    · rename_i full
      constructor
      · intro h
        cases (Query.judge_eq_ok_iff.mp h).1
      · rintro ⟨_, free, _⟩
        exact absurd free full

/-- What looking closer at a hint keeps true, trying it keeps true. -/
lemma attempt_keeps {P : Knowledge σ → Prop} {top : Frame} {hint : EntityId} (lower : List Frame)
    (examines : Query.Keeps P (r.examine goal top hint)) :
    Query.Keeps P (attempt r goal top lower hint) := by
  unfold attempt
  split
  · exact Query.Keeps.judge _
  · split
    · exact examines
    · exact Query.Keeps.judge _

/-- The top frame without the hint it has just given. -/
def taken (top : Frame) (untried : List EntityId) : Frame :=
  { top with untried := untried }

/-- What a step can be. -/
inductive Stepped (r : Resolver σ) (goal : Goal) (s : Search σ goal.room) :
    Move σ goal.room → Prop
  /-- Nothing is left to try. -/
  | empty (frames : s.frames = []) :
      Stepped r goal s (.done (.error (noPath goal s.deepest)) s)
  /-- The top entity has no hints left. -/
  | exhausted {top : Frame} {lower : List Frame} {next : Search σ goal.room}
      (frames : s.frames = top :: lower) (none_left : top.untried = [])
      (next_frames : next.frames = lower) (next_knowledge : next.knowledge = s.knowledge)
      (next_deepest : next.deepest = s.deepest)
      (next_events : next.events = .exhausted top.entity :: s.events) :
      Stepped r goal s (.onward next)
  /-- A hint is refused. -/
  | refused {top : Frame} {lower : List Frame} {hint : EntityId} {untried : List EntityId}
      {failure : Failure} {next : Search σ goal.room}
      (frames : s.frames = top :: lower) (some_left : top.untried = hint :: untried)
      (attempted : attempt r goal top lower hint s.knowledge = (.error failure, next.knowledge))
      (next_frames : next.frames = taken top untried :: lower)
      (next_deepest : next.deepest = record s.deepest (lower.length + 1) failure)
      (next_events : next.events =
        .refused hint (lower.length + 1) failure :: .tried hint (lower.length + 1) :: s.events) :
      Stepped r goal s (.onward next)
  /-- A hint leads to a further entity. -/
  | pushed {top : Frame} {lower : List Frame} {hint : EntityId} {untried : List EntityId}
      {frame : Frame} {next : Search σ goal.room}
      (frames : s.frames = top :: lower) (some_left : top.untried = hint :: untried)
      (attempted : attempt r goal top lower hint s.knowledge =
        (.ok (.superior frame), next.knowledge))
      (next_frames : next.frames = frame :: taken top untried :: lower)
      (next_deepest : next.deepest = s.deepest)
      (next_events : next.events = .tried hint (lower.length + 1) :: s.events) :
      Stepped r goal s (.onward next)
  /-- A hint leads to the anchor. -/
  | arrived {top : Frame} {lower : List Frame} {hint : EntityId} {untried : List EntityId}
      {configuration vouching : Statement} {final : Search σ goal.room}
      (frames : s.frames = top :: lower) (some_left : top.untried = hint :: untried)
      (attempted : attempt r goal top lower hint s.knowledge =
        (.ok (.anchor configuration vouching), final.knowledge))
      (final_frames : final.frames = taken top untried :: lower)
      (final_deepest : final.deepest = s.deepest)
      (final_events : final.events = .tried hint (lower.length + 1) :: s.events) :
      Stepped r goal s
        (.done (.ok (pathFrom configuration vouching (taken top untried :: lower))) final)

/-- **Every step is one of these.** -/
theorem stepped (s : Search σ goal.room) : Stepped r goal s (step r goal s) := by
  unfold step
  split
  · rename_i frames
    exact .empty frames
  · rename_i top lower frames
    split
    · rename_i none_left
      exact .exhausted frames none_left rfl rfl rfl rfl
    · rename_i hint untried some_left
      dsimp only
      split
      · rename_i cycle
        have attempted : attempt r goal top lower hint s.knowledge =
            (.error (.cycle hint), s.knowledge) := by
          have cycle' : (top :: lower).any (fun frame => frame.entity == hint) = true := by
            simpa using cycle
          rw [attempt, if_pos cycle']
          rfl
        exact .refused frames some_left attempted rfl rfl rfl
      · rename_i no_cycle
        have no_cycle' : ¬ (top :: lower).any (fun frame => frame.entity == hint) = true := by
          simpa using no_cycle
        split
        · rename_i free
          have examined : attempt r goal top lower hint = r.examine goal top hint := by
            rw [attempt, if_neg no_cycle', if_pos (by simpa using free)]
          split
          · rename_i failure known refused
            exact .refused frames some_left (examined ▸ refused) rfl rfl rfl
          · rename_i configuration vouching known arrived
            exact .arrived frames some_left (examined ▸ arrived) rfl rfl rfl
          · rename_i frame known pushed
            exact .pushed frames some_left (examined ▸ pushed) rfl rfl rfl
        · rename_i full
          have attempted : attempt r goal top lower hint s.knowledge =
              (.error (.hopLimit goal.maxHops), s.knowledge) := by
            rw [attempt, if_neg no_cycle', if_neg (by simpa using full)]
            rfl
          exact .refused frames some_left attempted rfl rfl rfl

/-- The parts of a step, told from the fate of the next hint. -/
def stepParts (r : Resolver σ) (goal : Goal) (s : Search σ goal.room) :
    Option (Except Failure (List Statement)) × List Frame × Knowledge σ × Option (Nat × Failure) ×
      List Event :=
  match s.frames with
  | [] => (some (.error (noPath goal s.deepest)), s.frames, s.knowledge, s.deepest, s.events)
  | top :: lower =>
    match top.untried with
    | [] => (none, lower, s.knowledge, s.deepest, .exhausted top.entity :: s.events)
    | hint :: untried =>
      let path := taken top untried :: lower
      let tried := .tried hint (lower.length + 1) :: s.events
      match attempt r goal top lower hint s.knowledge with
      | (.error failure, known) =>
        (none, path, known, record s.deepest (lower.length + 1) failure,
          .refused hint (lower.length + 1) failure :: tried)
      | (.ok (.superior frame), known) => (none, frame :: path, known, s.deepest, tried)
      | (.ok (.anchor configuration vouching), known) =>
        (some (.ok (pathFrom configuration vouching path)), path, known, s.deepest, tried)

lemma Stepped.parts_eq {s : Search σ goal.room} {move : Move σ goal.room}
    (stepped : Stepped r goal s move) : move.parts = stepParts r goal s := by
  cases stepped with
  | empty frames => simp only [Move.parts, stepParts, frames]
  | exhausted frames none_left next_frames next_knowledge next_deepest next_events =>
      simp only [Move.parts, stepParts, frames, none_left, next_frames, next_knowledge, next_deepest,
        next_events]
  | refused frames some_left attempted next_frames next_deepest next_events =>
      simp only [Move.parts, stepParts, frames, some_left, attempted, next_frames, next_deepest,
        next_events]
  | pushed frames some_left attempted next_frames next_deepest next_events =>
      simp only [Move.parts, stepParts, frames, some_left, attempted, next_frames, next_deepest,
        next_events]
  | arrived frames some_left attempted final_frames final_deepest final_events =>
      simp only [Move.parts, stepParts, frames, some_left, attempted, final_frames, final_deepest,
        final_events]

/-- **A step is only one of these.** -/
theorem Stepped.eq_step {s : Search σ goal.room} {move : Move σ goal.room}
    (h : Stepped r goal s move) : step r goal s = move :=
  Move.parts_injective ((stepped s).parts_eq.trans h.parts_eq.symm)

/-! ### Whole runs -/

lemma run_of_done {s final : Search σ goal.room} {result : Except Failure (List Statement)}
    (h : step r goal s = .done result final) : run r goal s = (result, final) := by
  rw [run]
  split
  · rename_i result' final' h'
    rw [h] at h'
    cases h'
    rfl
  · rename_i next h'
    rw [h] at h'
    cases h'

lemma run_of_onward {s next : Search σ goal.room} (h : step r goal s = .onward next) :
    run r goal s = run r goal next := by
  rw [run]
  split
  · rename_i result final h'
    rw [h] at h'
    cases h'
  · rename_i next' h'
    rw [h] at h'
    cases h'
    rfl

/-- A run, followed backwards: what the step that ends it establishes, and every step hands down,
holds of the state it starts from. -/
theorem run_induction
    {P : Search σ goal.room → Except Failure (List Statement) × Search σ goal.room → Prop}
    (done : ∀ s result final, Stepped r goal s (.done result final) → P s (result, final))
    (onward : ∀ s next outcome, Stepped r goal s (.onward next) → P next outcome → P s outcome)
    (s : Search σ goal.room) : P s (run r goal s) := by
  induction s using run.induct r goal with
  | case1 s result final h =>
      rw [run_of_done h]
      exact done s result final (h ▸ stepped s)
  | case2 s next h ih =>
      rw [run_of_onward h]
      exact onward s next _ (h ▸ stepped s) ih

/-- An invariant of the steps holds when the step comes that ends the run. -/
theorem run_invariant {I : Search σ goal.room → Prop} {s final : Search σ goal.room}
    {result : Except Failure (List Statement)} (h : run r goal s = (result, final)) (base : I s)
    (keeps : ∀ s next, I s → Stepped r goal s (.onward next) → I next) :
    ∃ last, I last ∧ Stepped r goal last (.done result final) := by
  have along : I s → ∃ last, I last ∧
      Stepped r goal last (.done (run r goal s).1 (run r goal s).2) :=
    run_induction
      (P := fun s outcome => I s → ∃ last, I last ∧ Stepped r goal last (.done outcome.1 outcome.2))
      (fun s result final ended inv => ⟨s, inv, ended⟩)
      (fun s next outcome went ih inv => ih (keeps s next inv went)) s
  rw [h] at along
  exact along base

/-! ### Runs of known length -/

/-- At most so many steps. -/
def within (r : Resolver σ) (goal : Goal) : Nat → Search σ goal.room → Move σ goal.room
  | 0, s => .onward s
  | n + 1, s =>
    match step r goal s with
    | .onward next => within r goal n next
    | .done result final => .done result final

theorem run_eq_of_within {n : Nat} {s final : Search σ goal.room}
    {result : Except Failure (List Statement)}
    (h : within r goal n s = .done result final) : run r goal s = (result, final) := by
  induction n generalizing s with
  | zero => cases h
  | succ n ih =>
      rw [within] at h
      split at h
      · rename_i next went
        rw [run_of_onward went]
        exact ih h
      · rename_i ended
        cases h
        exact run_of_done ended

end Search

end Federation
