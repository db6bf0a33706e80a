import Federation.Policy.Combination

/-!
# Holding metadata to a policy

A policy is applied to the metadata an entity claims for itself.  Each entry looks at its own
parameter alone.

**Supplying.**  `value` replaces the parameter, and removes it when it is null; otherwise `add`
extends an array, starting from the empty one; otherwise `default` fills in for an absent parameter.

**Checking.**  What is present then is held against `one_of`, `subset_of` and `superset_of`, in this
order, a value that is no array counting as a set of one.  An essential parameter that is absent is
an error.

**Parameters.**  `Operators.apply` is the effect of an entry on the value of its parameter;
`Policy.apply` runs the entries over an object.  A changed parameter keeps its place, a new one goes
to the end, and parameters without an entry are left alone.
-/

namespace Federation

namespace Operators

/-- The value the operators give a parameter, before any check. -/
def supply (operators : Operators) (current : Option Json) :
    Except Violation.Reason (Option Json) :=
  match operators.value? with
  | some v => .ok (if v.isNull then none else some v)
  | none =>
    match operators.add? with
    | some new =>
      match current with
      | none => .ok (some (.array (unite [] new)))
      | some (.array items) => .ok (some (.array (unite items new)))
      | some _ => .error .addToScalar
    | none =>
      match current with
      | none => .ok operators.default?
      | some v => .ok (some v)

/-- Holds a value against `one_of`. -/
def checkOneOf (operators : Operators) (value : Json) : Except Violation.Reason Unit :=
  match operators.oneOf? with
  | none => .ok ()
  | some allowed =>
    if value.isArray then .error .oneOfArray
    else if allowed.contains value then .ok ()
    else .error (.notOneOf value allowed)

/-- Holds a value against `subset_of`. -/
def checkSubsetOf (operators : Operators) (value : Json) : Except Violation.Reason Unit :=
  match operators.subsetOf? with
  | none => .ok ()
  | some allowed =>
    match value.asSet.find? fun v => !allowed.contains v with
    | some extra => .error (.notAllowed extra)
    | none => .ok ()

/-- Holds a value against `superset_of`. -/
def checkSupersetOf (operators : Operators) (value : Json) : Except Violation.Reason Unit :=
  match operators.supersetOf? with
  | none => .ok ()
  | some required =>
    let missing := required.filter fun v => !value.asSet.contains v
    if missing.isEmpty then .ok () else .error (.missing missing)

/-- Holds a value against all checks of the entry. -/
def check (operators : Operators) (value : Json) : Except Violation.Reason Unit := do
  operators.checkOneOf value
  operators.checkSubsetOf value
  operators.checkSupersetOf value

/-- What an entry makes of its parameter, present or absent. -/
def apply (operators : Operators) (current : Option Json) :
    Except Violation.Reason (Option Json) := do
  match ← operators.supply current with
  | some value =>
    operators.check value
    return some value
  | none => if operators.isEssential then .error .essentialAbsent else return none

end Operators

namespace Policy

/-- Runs one entry over an object. -/
def applyEntry (metadata : Members Json) (parameter : String) (operators : Operators) :
    Except Violation (Members Json) := do
  let current := metadata.get? parameter
  if current.isNone && !operators.actsOnAbsent then return metadata
  match ← Combination.blame parameter (operators.apply current) with
  | some value => return metadata.insert parameter value
  | none => return metadata.erase parameter

/-- The metadata as the policy leaves it. -/
def apply (policy : Policy) (metadata : Members Json) : Except Violation (Members Json) :=
  policy.entries.foldlM (fun metadata (parameter, operators) =>
    applyEntry metadata parameter operators) metadata

end Policy

end Federation
