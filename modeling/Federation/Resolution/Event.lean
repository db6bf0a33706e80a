import Federation.Failure

/-!
# What happens during a resolution

A resolution records what it does as a list of events.  The record is a part of the result: the
order of attempts and the reasons of refusals can be read from it.

**Lines.**  `Event.line` is an event as a line of a log, with the level it is reported at.
-/

namespace Federation

/-- Something that happens during a resolution. -/
inductive Event where
  /-- The resolution passes from one phase to another. -/
  | passed (before after : Phase)
  /-- A hint is about to be tried. -/
  | tried (hint : EntityId) (depth : Nat)
  /-- A hint does not lead on. -/
  | refused (hint : EntityId) (depth : Nat) (failure : Failure)
  /-- An entity has no hints left. -/
  | exhausted (entity : EntityId)
  /-- A chain of so many statements has reached the anchor. -/
  | reached (size : Nat)
  /-- The policy of a statement is about to be combined with those above it. -/
  | combined (issuer subject : EntityId)

namespace Event

/-- How much attention an event deserves. -/
inductive Level where
  | debug
  | info
  | warn
deriving DecidableEq

/-- The name of a level. -/
def Level.name : Level → String
  | .debug => "DEBUG"
  | .info => "INFO"
  | .warn => "WARN"

/-- The level of an event. -/
def level : Event → Level
  | refused _ _ _ => .warn
  | reached _ => .info
  | _ => .debug

/-- An event in words, for the resolution of a leaf up to an anchor. -/
def message (leaf anchor : EntityId) (entityType : String) : Event → String
  | passed before after => s!"resolution of {leaf}: {before.name} -> {after.name}"
  | tried hint depth => s!"trying authority hint {hint} at depth {depth}"
  | refused hint _ failure => s!"authority hint {hint} rejected: {failure.message}"
  | exhausted entity => s!"authority hints of {entity} exhausted, backtracking"
  | reached size => s!"trust chain for {leaf} reached {anchor} in {size} statements"
  | combined issuer subject => s!"merging {entityType} policy from {issuer} about {subject}"

/-- An event as a line of a log. -/
def line (leaf anchor : EntityId) (entityType : String) (event : Event) : String :=
  event.level.name ++ " " ++ event.message leaf anchor entityType

end Event

end Federation
