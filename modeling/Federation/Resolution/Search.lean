import Federation.Resolution.Effort
import Federation.Resolution.Event
import Federation.Resolution.Frame

/-!
# The search for the anchor

The search goes depth first over the hints of the entities on its path, in the order in which they
are given, and takes the first path that reaches the anchor.

**One hint.**  `Resolver.examine` learns the configuration of a hint and its statement about the
entity on top of the path, and checks both.  The configuration of the anchor is held against the
keys the caller trusts and is fetched only once.

**One step.**  `Search.step` tries the next hint of the top entity, or takes the entity off the path
when it has none left.  A hint that is refused changes nothing but the list of hints and the record
of failures.

**The whole search.**  `Search.run` repeats steps.  It ends for every fetcher, because each step
lowers the `Effort` of the stack: a hint is used up, and frames are only pushed while there is room.

**Failures.**  If no path is found, the failure of the deepest attempt is reported, of several the
first.  Statements that could not be fetched do not count; if nothing else went wrong, there simply
is no path.
-/

namespace Federation

/-- Whom the caller trusts and what it asks for. -/
structure Terms where
  /-- The trust anchor. -/
  anchor : EntityId
  /-- The keys of the anchor that the caller trusts. -/
  anchorKeys : KeySet
  /-- How many statements a path may have, the leaf's included and the anchor's not. -/
  maxHops : Nat
  /-- The type of metadata asked for. -/
  entityType : EntityType
  /-- The time at which statements must be valid. -/
  now : Int

/-- How many statements a path may have, unless the caller says otherwise. -/
def Terms.defaultMaxHops : Nat := 10

/-- What a resolution is to find out. -/
structure Goal extends Terms where
  /-- The configuration of the leaf. -/
  leaf : Statement

/-- The bound on the entities on a path. -/
def Goal.room (goal : Goal) : Nat :=
  max 1 goal.maxHops

/-- What a resolution works with. -/
structure Resolver (σ : Type) where
  fetcher : Fetcher σ
  verifier : Verifier

/-- What a search keeps between its requests. -/
structure Knowledge (σ : Type) where
  /-- The state of the fetcher. -/
  source : σ
  /-- The configuration of the anchor, once it is known. -/
  anchorConfiguration : Option Statement

/-- Requests that may fail and change what is known. -/
abbrev Query (σ α : Type) : Type :=
  ExceptT Failure (StateM (Knowledge σ)) α

/-- Where an admitted hint leads. -/
inductive Admission where
  /-- To the anchor, with its configuration and its statement about the top entity. -/
  | anchor (configuration vouching : Statement)
  /-- To a further entity. -/
  | superior (frame : Frame)

namespace Resolver

variable {σ : Type}

/-- Fetches a raw statement. -/
def fetch (r : Resolver σ) (issuer subject : EntityId) : Query σ String :=
  fun known =>
    let (answer, source) := r.fetcher issuer subject known.source
    (answer.mapError .fetch, { known with source := source })

/-- A check as a query. -/
def judge {α : Type} (verdict : Except Failure α) : Query σ α :=
  fun known => (verdict, known)

/-- The configuration of an entity, verified by its own keys. -/
def fetchConfiguration (r : Resolver σ) (entity : EntityId) : Query σ Statement := do
  let raw ← r.fetch entity entity
  judge (r.verifier.readConfiguration entity raw)

/-- A statement, verified by given keys. -/
def fetchIssued (r : Resolver σ) (issuer subject : EntityId) (keys : KeySet) :
    Query σ Statement := do
  let raw ← r.fetch issuer subject
  judge (r.verifier.readIssued issuer subject keys raw)

/-- Keeps the configuration of the anchor. -/
def remember (configuration : Statement) : Query σ Unit :=
  fun known => (.ok (), { known with anchorConfiguration := some configuration })

/-- The configuration of the anchor, verified by the trusted keys. -/
def anchorConfiguration (r : Resolver σ) (goal : Goal) : Query σ Statement :=
  fun known =>
    match known.anchorConfiguration with
    | some configuration => (.ok configuration, known)
    | none =>
      (do
        let configuration ← r.fetchIssued goal.anchor goal.anchor goal.anchorKeys
        remember configuration
        return configuration : Query σ Statement) known

/-- The configuration of a hint, and the keys it signs with. -/
def learn (r : Resolver σ) (goal : Goal) (hint : EntityId) : Query σ (Statement × KeySet) := do
  if hint = goal.anchor then
    let configuration ← r.anchorConfiguration goal
    return (configuration, goal.anchorKeys)
  else
    let configuration ← r.fetchConfiguration hint
    return (configuration, configuration.keys)

/-- Where a hint of the top entity leads. -/
def examine (r : Resolver σ) (goal : Goal) (top : Frame) (hint : EntityId) : Query σ Admission := do
  let (configuration, keys) ← r.learn goal hint
  judge (configuration.checkValidity goal.now)
  judge configuration.checkRequired
  let vouching ← r.fetchIssued hint top.entity keys
  let allowance ← judge (top.checkVouching hint vouching goal.now)
  if hint = goal.anchor then return .anchor configuration vouching
  else
    let allowance ← judge (Allowance.spend hint allowance)
    return .superior (top.onTopOf configuration vouching allowance hint)

end Resolver

/-- The state of a search. -/
structure Search (σ : Type) (room : Nat) where
  /-- The entities on the path, the leaf last. -/
  frames : List Frame
  knowledge : Knowledge σ
  /-- The failure to report if there is no path, with the depth it occurred at. -/
  deepest : Option (Nat × Failure)
  /-- What has happened, the last event first. -/
  events : List Event
  frames_length_le : frames.length ≤ room

/-- What a step leads to. -/
inductive Move (σ : Type) (room : Nat) where
  /-- The search is not over. -/
  | onward (s : Search σ room)
  /-- The search is over, with the statements above the leaf's configuration or a failure. -/
  | done (result : Except Failure (List Statement)) (s : Search σ room)

namespace Search

variable {σ : Type}

/-- The beginning of a search. -/
def start (goal : Goal) (knowledge : Knowledge σ) (events : List Event) : Search σ goal.room :=
  { frames := [Frame.ofLeaf goal.leaf]
    knowledge, events
    deepest := none
    frames_length_le := Nat.le_max_left 1 goal.maxHops }

/-- Remembers the failure of an attempt, unless it is a fetch failure or not the deepest one. -/
def record (deepest : Option (Nat × Failure)) (depth : Nat) (failure : Failure) :
    Option (Nat × Failure) :=
  if failure.isFetch then deepest
  else
    match deepest with
    | none => some (depth, failure)
    | some (deepestDepth, _) => if deepestDepth < depth then some (depth, failure) else deepest

/-- What is reported when every hint has been tried. -/
def noPath (goal : Goal) : Option (Nat × Failure) → Failure
  | some (_, failure) => failure
  | none => .noTrustPath goal.leaf.subject goal.anchor

/-- The statements from the anchor's configuration down to the one about the leaf. -/
def pathFrom (configuration vouching : Statement) (frames : List Frame) : List Statement :=
  configuration :: vouching :: frames.filterMap Frame.vouching

/-- Tries the next hint of the top entity, or takes the entity off the path. -/
def step (r : Resolver σ) (goal : Goal) (s : Search σ goal.room) : Move σ goal.room :=
  match frames : s.frames with
  | [] => .done (.error (noPath goal s.deepest)) s
  | top :: lower =>
    match top.untried with
    | [] =>
      .onward
        { s with
          frames := lower
          events := .exhausted top.entity :: s.events
          frames_length_le := by
            have := s.frames_length_le
            simp only [frames, List.length_cons] at this
            omega }
    | hint :: untried =>
      let path := { top with untried := untried } :: lower
      let depth := path.length
      let events := .tried hint depth :: s.events
      have path_length_le : path.length ≤ goal.room := by
        have := s.frames_length_le
        simpa [path, frames] using this
      let refuse (failure : Failure) (knowledge : Knowledge σ) : Move σ goal.room :=
        .onward
          { frames := path
            knowledge := knowledge
            deepest := record s.deepest depth failure
            events := .refused hint depth failure :: events
            frames_length_le := path_length_le }
      if path.any fun frame => frame.entity == hint then refuse (.cycle hint) s.knowledge
      else if free : depth < goal.maxHops then
        match r.examine goal top hint s.knowledge with
        | (.error failure, knowledge) => refuse failure knowledge
        | (.ok (.anchor configuration vouching), knowledge) =>
          .done (.ok (pathFrom configuration vouching path))
            { s with
              frames := path
              knowledge := knowledge
              events := events
              frames_length_le := path_length_le }
        | (.ok (.superior frame), knowledge) =>
          .onward
            { s with
              frames := frame :: path
              knowledge := knowledge
              events := events
              frames_length_le := by
                simp only [Goal.room, List.length_cons]
                omega }
      else refuse (.hopLimit goal.maxHops) s.knowledge

/-- What is left to do on a path. -/
def effort {room : Nat} (s : Search σ room) : Effort room :=
  Effort.ofList room (s.frames.reverse.map fun frame => frame.untried.length + 1)

/-- The frames after a step: the top one is gone, or it has a hint less and perhaps another frame on
top. -/
theorem frames_of_step {r : Resolver σ} {goal : Goal} {s next : Search σ goal.room}
    (h : step r goal s = .onward next) :
    ∃ top lower, s.frames = top :: lower ∧
      (top.untried = [] ∧ next.frames = lower ∨
        ∃ hint untried above, top.untried = hint :: untried ∧
          next.frames = above ++ { top with untried := untried } :: lower) := by
  unfold step at h
  split at h
  · cases h
  · rename_i top lower frames
    refine ⟨top, lower, frames, ?_⟩
    split at h
    · rename_i none_left
      cases h
      exact .inl ⟨none_left, rfl⟩
    · rename_i hint untried some_left
      refine .inr ⟨hint, untried, ?_⟩
      dsimp only at h
      split at h
      · cases h
        exact ⟨[], some_left, rfl⟩
      · split at h
        · split at h
          · cases h
            exact ⟨[], some_left, rfl⟩
          · cases h
          · rename_i frame knowledge _
            cases h
            exact ⟨[frame], some_left, rfl⟩
        · cases h
          exact ⟨[], some_left, rfl⟩

/-- Every step that does not end the search lowers its effort. -/
theorem effort_lt_of_step {r : Resolver σ} {goal : Goal} {s next : Search σ goal.room}
    (h : step r goal s = .onward next) : Effort.Lt next.effort s.effort := by
  obtain ⟨top, lower, frames, cases⟩ := frames_of_step h
  have inside : lower.length < goal.room := by
    have := s.frames_length_le
    rw [frames, List.length_cons] at this
    omega
  have inside' : (lower.reverse.map fun frame => frame.untried.length + 1).length < goal.room := by
    simpa using inside
  rcases cases with ⟨none_left, popped⟩ | ⟨hint, untried, above, some_left, kept⟩
  · simp only [effort, frames, popped, List.reverse_cons, List.map_append, List.map_cons,
      List.map_nil, none_left, List.length_nil]
    rw [← Effort.ofList_append_zero]
    exact Effort.ofList_append_lt _ _ _ _ inside' (by omega)
  · simp only [effort, frames, kept, List.reverse_append, List.reverse_cons, List.map_append,
      List.map_cons, List.map_nil, some_left, List.length_cons, List.append_assoc,
      List.cons_append, List.nil_append]
    exact Effort.ofList_append_lt _ _ _ _ inside' (by omega)

/-- Repeats steps until the search is over. -/
def run (r : Resolver σ) (goal : Goal) (s : Search σ goal.room) :
    Except Failure (List Statement) × Search σ goal.room :=
  match _ : step r goal s with
  | .done result final => (result, final)
  | .onward next => run r goal next
termination_by s.effort
decreasing_by exact effort_lt_of_step ‹_›

end Search

end Federation
