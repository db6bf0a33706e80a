import Federation.Resolution.Search

/-!
# The search with its books kept apart

A `Search` is built so that some things cannot go wrong: a limit is there whenever a number of remaining
entities is, the path is never longer than it may be, and a hint is examined on behalf of a frame.  A `Walk`
is the same search without this protection.  Each fact about an entity has a field of its own, a hint is a
place in a list, and where something might be missing it is said what happens then.

**Fallbacks.**  `Walk.Fallbacks` is what is used in place of a frame or a limit that is not there.

**One hint.**  `Walk.examine` may change everything about the walk, so that it changes nothing but what is
known is something to be proved.

**Steps.**  `Walk.step` takes a hint out of the top frame and examines it, or takes the frame off the path.
`Walk.within` makes a number of steps.
-/

namespace Federation

/-- An entity on a path. -/
structure Walk.Frame where
  entity : EntityId
  /-- The keys the entity signs with. -/
  keys : KeySet
  /-- All hints of the entity. -/
  hints : List EntityId
  /-- The place of the next hint. -/
  nextHint : Nat
  /-- What the entity states about the entity below it. -/
  vouching : Option Statement
  /-- How many entities may still stand between this one and the anchor. -/
  remaining : Option Nat
  /-- The bound that has set this number. -/
  limit : Option Nat
  /-- The entities below this one, the leaf first. -/
  below : List EntityId

/-- The state of a walk. -/
structure Walk (σ : Type) where
  /-- The entities on the path, the leaf last. -/
  frames : List Walk.Frame
  knowledge : Knowledge σ
  /-- The failure to report if there is no path, with the depth it occurred at. -/
  deepest : Option (Nat × Failure)

namespace Walk

variable {σ : Type}

/-- What is used where something is missing. -/
structure Fallbacks where
  /-- The failure if there is no frame on whose behalf a hint is examined. -/
  noFrame : Failure
  /-- The limit that is reported if none is known. -/
  limit : Nat

/-- What is used unless it is said otherwise. -/
def Fallbacks.standard : Fallbacks :=
  { noFrame := .mismatch "empty frame stack", limit := 0 }

namespace Frame

/-- The frame of the leaf. -/
def ofLeaf (leaf : Statement) : Frame :=
  { entity := leaf.subject
    keys := leaf.keys
    hints := leaf.hints
    nextHint := 0
    vouching := none
    remaining := leaf.maxPathLength
    limit := leaf.maxPathLength
    below := [] }

/-- The next hint is used up. -/
def advanced (frame : Frame) : Frame :=
  { frame with nextHint := frame.nextHint + 1 }

/-- The next hint, with what is left of the frame. -/
def takeHint? (frame : Frame) : Option (EntityId × Frame) :=
  frame.hints[frame.nextHint]?.map fun hint => (hint, frame.advanced)

/-- The number of entities that remain and the limit, once a further bound is taken into account. -/
def tightened (frame : Frame) (bound : Option Nat) : Option Nat × Option Nat :=
  match frame.remaining, bound with
  | some remaining, some bound =>
    if bound < remaining then (some bound, some bound) else (some remaining, frame.limit)
  | some remaining, none => (some remaining, frame.limit)
  | none, bound => (bound, bound)

end Frame

/-- Counts an entity that is not the anchor. -/
def spend (fallbacks : Fallbacks) (entity : EntityId) (remaining limit : Option Nat) :
    Except Failure (Option Nat) :=
  match remaining with
  | some 0 => .error (.constraint (.pathTooLong entity (limit.getD fallbacks.limit)))
  | some (n + 1) => .ok (some n)
  | none => .ok none

/-- Work that may fail and change the walk. -/
abbrev Task (σ α : Type) : Type :=
  ExceptT Failure (StateM (Walk σ)) α

/-- A query about what is known. -/
def ask {α : Type} (query : Query σ α) : Task σ α :=
  fun walk =>
    let (answer, knowledge) := query walk.knowledge
    (answer, { walk with knowledge := knowledge })

/-- A check. -/
def check {α : Type} (verdict : Except Failure α) : Task σ α :=
  fun walk => (verdict, walk)

/-- The frames of the path. -/
def path : Task σ (List Frame) :=
  fun walk => (.ok walk.frames, walk)

/-- Where an admitted hint leads. -/
inductive Admission where
  /-- To the anchor, with its statement about the top entity. -/
  | anchor (vouching : Statement)
  /-- To a further entity. -/
  | superior (frame : Frame)

/-- Where a hint of the top entity leads. -/
def examine (fallbacks : Fallbacks) (r : Resolver σ) (goal : Goal) (hint : EntityId) :
    Task σ Admission := do
  let frames ← path
  if frames.any fun frame => frame.entity == hint then check (.error (.cycle hint))
  else if goal.maxHops ≤ frames.length then check (.error (.hopLimit goal.maxHops))
  else
    let (configuration, keys) ← ask (r.learn goal hint)
    check (configuration.checkValidity goal.now)
    check configuration.checkRequired
    match ← path with
    | [] => check (.error fallbacks.noFrame)
    | top :: _ =>
      let vouching ← ask (r.fetchIssued hint top.entity keys)
      check (vouching.checkValidity goal.now)
      check vouching.checkRequired
      if !vouching.keys.sharesKeyWith top.keys then
        check (.error (.badSignature s!"{hint} does not vouch for the keys of {top.entity}"))
      else
        check (Federation.Frame.checkNames vouching top.below)
        let (remaining, limit) := top.tightened vouching.maxPathLength
        if hint = goal.anchor then return .anchor vouching
        else
          let remaining ← check (spend fallbacks hint remaining limit)
          return .superior
            { entity := hint
              keys := configuration.keys
              hints := configuration.hints
              nextHint := 0
              vouching := some vouching
              remaining, limit
              below := top.below ++ [top.entity] }

/-- The statements from the anchor's configuration down to the one about the leaf. -/
def pathToAnchor (r : Resolver σ) (goal : Goal) (vouching : Statement) : Task σ (List Statement) := do
  let configuration ← ask (r.anchorConfiguration goal)
  let frames ← path
  return configuration :: vouching :: frames.filterMap Frame.vouching

/-- What a step leads to. -/
inductive Move (σ : Type) where
  /-- The walk is not over. -/
  | onward (walk : Walk σ)
  /-- The walk is over, with the statements above the leaf's configuration or a failure. -/
  | done (result : Except Failure (List Statement)) (walk : Walk σ)

/-- The beginning of a walk. -/
def start (goal : Goal) (source : σ) : Walk σ :=
  { frames := [Frame.ofLeaf goal.leaf], knowledge := ⟨source, none⟩, deepest := none }

/-- Tries the next hint of the top entity, or takes the entity off the path. -/
def step (fallbacks : Fallbacks) (r : Resolver σ) (goal : Goal) (walk : Walk σ) : Move σ :=
  match walk.frames with
  | [] => .done (.error (Search.noPath goal walk.deepest)) walk
  | top :: lower =>
    match top.takeHint? with
    | none => .onward { walk with frames := lower }
    | some (hint, top) =>
      let depth := (top :: lower).length
      match examine fallbacks r goal hint { walk with frames := top :: lower } with
      | (.ok (.anchor vouching), walk) =>
        let (result, walk) := pathToAnchor r goal vouching walk
        .done result walk
      | (.ok (.superior frame), walk) => .onward { walk with frames := frame :: walk.frames }
      | (.error failure, walk) =>
        .onward { walk with deepest := Search.record walk.deepest depth failure }

/-- At most so many steps. -/
def within (fallbacks : Fallbacks) (r : Resolver σ) (goal : Goal) : Nat → Walk σ → Move σ
  | 0, walk => .onward walk
  | n + 1, walk =>
    match step fallbacks r goal walk with
    | .onward next => within fallbacks r goal n next
    | .done result final => .done result final

end Walk

end Federation
