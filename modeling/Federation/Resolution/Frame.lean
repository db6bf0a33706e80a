import Federation.Resolution.Sources

/-!
# Entities on a path

A search for the anchor walks from the leaf upwards.  Each entity on its path is a `Frame`: the keys
it signs with, the hints it has left, and the statement that made it the superior of the entity
below.

**Path length.**  An `Allowance` says how many entities may still stand between an entity and the
anchor and which bound says so.  `Allowance.tighten` takes a further bound into account,
`Allowance.spend` counts one entity.

**Vouching.**  `Frame.checkVouching` holds the statement of a superior against the entity on top of
the path: the statement must be valid, vouch for a key of the entity and admit all entities below
it.
-/

namespace Federation

/-- How many entities may still stand between an entity and the anchor. -/
structure Allowance where
  /-- The number of entities. -/
  remaining : Nat
  /-- The bound that sets this number. -/
  bound : Nat
deriving DecidableEq

namespace Allowance

/-- Takes a bound into account; of two equal ones the first counts. -/
def tighten : Option Allowance → Option Nat → Option Allowance
  | some a, some bound => if bound < a.remaining then some ⟨bound, bound⟩ else some a
  | some a, none => some a
  | none, some bound => some ⟨bound, bound⟩
  | none, none => none

/-- Counts an entity that is not the anchor. -/
def spend (entity : EntityId) : Option Allowance → Except Failure (Option Allowance)
  | none => .ok none
  | some ⟨0, bound⟩ => .error (.constraint (.pathTooLong entity bound))
  | some ⟨n + 1, bound⟩ => .ok (some ⟨n, bound⟩)

end Allowance

/-- An entity on a path. -/
structure Frame where
  entity : EntityId
  /-- The keys the entity signs with. -/
  keys : KeySet
  /-- The hints that have not been tried. -/
  untried : List EntityId
  /-- What the entity states about the entity below it; the leaf has none below. -/
  vouching : Option Statement
  /-- How many entities may still stand between this one and the anchor. -/
  allowance : Option Allowance
  /-- The entities below this one, the leaf first. -/
  below : List EntityId

namespace Frame

/-- The frame of the leaf. -/
def ofLeaf (leaf : Statement) : Frame :=
  { entity := leaf.subject
    keys := leaf.keys
    untried := leaf.hints
    vouching := none
    allowance := Allowance.tighten none leaf.maxPathLength
    below := [] }

/-- Insists that the names of entities are admitted by a statement. -/
def checkNames (s : Statement) (entities : List EntityId) : Except Failure Unit :=
  match s.constraints with
  | none => .ok ()
  | some constraints =>
    entities.forM fun entity => (constraints.checkNaming entity).mapError .constraint

/-- Holds a superior's statement against the top of a path, and takes its bound into account. -/
def checkVouching (top : Frame) (superior : EntityId) (s : Statement) (now : Int) :
    Except Failure (Option Allowance) := do
  s.checkValidity now
  s.checkRequired
  if !s.keys.sharesKeyWith top.keys then
    .error (.badSignature s!"{superior} does not vouch for the keys of {top.entity}")
  else
    checkNames s top.below
    return Allowance.tighten top.allowance s.maxPathLength

/-- The frame of a superior that is not the anchor. -/
def onTopOf (top : Frame) (configuration vouching : Statement) (allowance : Option Allowance)
    (superior : EntityId) : Frame :=
  { entity := superior
    keys := configuration.keys
    untried := configuration.hints
    vouching := some vouching
    allowance := allowance
    below := top.below ++ [top.entity] }

end Frame

end Federation
