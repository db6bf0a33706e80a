import Federation.Policy.Basic
import Federation.Policy.Violation

/-!
# One policy out of many

The policies that apply to an entity are combined superior first.  A subordinate may narrow what its
superiors allow but never contradict them.

**Per parameter.**  `Combined` is the running combination of one parameter's operators.  `value` is
fixed by the first policy that has it; `one_of` and `subset_of` are intersected; `superset_of` and
`add` are united without repetition; of `default` the last one counts; `essential` holds as soon as
one policy asks for it.

**Consistency.**  After each entry the required values must lie inside the allowed ones and a fixed
value other than null must be admitted (`Combined.checkConsistency`).  A default may be replaced by
a later policy, so it is checked at the end (`Combined.checkDefault`).

**Result.**  The combined policy lists the parameters by first appearance, and for each one its
operators in a fixed order (`Combined.operators`).
-/

namespace Federation

/-- The running combination of the operators on one parameter. -/
structure Combined where
  value : Option Json
  add : Option (List Json)
  default : Option Json
  oneOf : Option (List Json)
  subsetOf : Option (List Json)
  supersetOf : Option (List Json)
  essential : Option Bool
  unknown : Members Json

/-- The values of two lists, each once, in order of first appearance. -/
def unite (known new : List Json) : List Json :=
  new.foldl (fun known v => if known.contains v then known else known ++ [v]) known

/-- The values of a set-like view: an array is the set of its items, any other value stands for
itself alone. -/
def Json.asSet : Json → List Json
  | .array items => items
  | value => [value]

namespace Combined

/-- Nothing asked for yet. -/
def empty : Combined := ⟨none, none, none, none, none, none, none, []⟩

/-- The values two lists have in common, in the order of the first.  The first list of a parameter
is taken as it is, even when it is empty; a common part that is empty allows no value at all. -/
def narrow (kind : Operator.Kind) (running : Option (List Json)) (new : List Json) :
    Except Violation.Reason (List Json) :=
  match running with
  | none => .ok (unite [] new)
  | some running =>
    let common := running.filter fun v => new.contains v
    if common.isEmpty then .error (.nothingAllowed kind) else .ok common

/-- Adds one operator. -/
def combine (c : Combined) : Operator → Except Violation.Reason Combined
  | .value v =>
    match c.value with
    | none => .ok { c with value := some v }
    | some fixed => if fixed == v then .ok c else .error (.twoValues v fixed)
  | .add list => .ok { c with add := some (unite (c.add.getD []) list.values) }
  | .default v => .ok { c with default := some v }
  | .oneOf list => do return { c with oneOf := some (← narrow .oneOf c.oneOf list.values) }
  | .subsetOf list => do
    return { c with subsetOf := some (← narrow .subsetOf c.subsetOf list.values) }
  | .supersetOf list => .ok { c with supersetOf := some (unite (c.supersetOf.getD []) list.values) }
  | .essential required => .ok { c with essential := some (c.essential.getD false || required) }
  | .unknown name config => .ok { c with unknown := c.unknown.insert name config }

/-- Why the lists do not admit a value, if they do not. -/
def rejection? (c : Combined) (value : Json) : Option Rejection :=
  let items := value.asSet
  let notListed :=
    match c.oneOf with
    | some allowed => if allowed.contains value then none else some Rejection.notListed
    | none => none
  let outside :=
    match c.subsetOf with
    | some allowed => (items.find? fun v => !allowed.contains v).map Rejection.outside
    | none => none
  let lacking :=
    match c.supersetOf with
    | some required => (required.find? fun v => !items.contains v).map Rejection.lacking
    | none => none
  notListed.or (outside.or lacking)

/-- The first required value that a list does not allow. -/
def requiredOutside? (c : Combined) (allowed : Option (List Json)) : Option Json :=
  match c.supersetOf, allowed with
  | some required, some allowed => required.find? fun v => !allowed.contains v
  | _, _ => none

/-- What must hold after every entry that is added. -/
def checkConsistency (c : Combined) : Except Violation.Reason Unit :=
  match c.requiredOutside? c.subsetOf with
  | some v => .error (.requiredOutside v .subsetOf)
  | none =>
    match c.requiredOutside? c.oneOf with
    | some v => .error (.requiredOutside v .oneOf)
    | none =>
      match c.value with
      | none => .ok ()
      | some v =>
        if v.isNull then .ok ()
        else
          match c.rejection? v with
          | some why => .error (.fixedRejected v why)
          | none => .ok ()

/-- What must hold when every policy is in. -/
def checkDefault (c : Combined) : Except Violation.Reason Unit :=
  match c.default with
  | none => .ok ()
  | some v =>
    match c.rejection? v with
    | some why => .error (.defaultRejected v why)
    | none => .ok ()

/-- Adds the operators of one entry. -/
def combineEntry (c : Combined) (operators : Operators) : Except Violation.Reason Combined := do
  let c ← operators.foldlM combine c
  c.checkConsistency
  return c

/-- The combined operators, each kind once. -/
def operators (c : Combined) : Operators :=
  (c.value.map Operator.value).toList ++
  (c.add.map fun vs => Operator.add (.many vs)).toList ++
  (c.default.map Operator.default).toList ++
  (c.oneOf.map fun vs => Operator.oneOf (.many vs)).toList ++
  (c.subsetOf.map fun vs => Operator.subsetOf (.many vs)).toList ++
  (c.supersetOf.map fun vs => Operator.supersetOf (.many vs)).toList ++
  (c.essential.map Operator.essential).toList ++
  c.unknown.map fun (name, config) => Operator.unknown name config

end Combined

/-- The running combination of whole policies, parameter by parameter. -/
abbrev Combination := Members Combined

namespace Combination

/-- Names the parameter a reason is about. -/
def blame {α : Type} (parameter : String) (result : Except Violation.Reason α) :
    Except Violation α :=
  result.mapError (Violation.mk parameter)

/-- Adds the entry of one parameter. -/
def addEntry (combination : Combination) (parameter : String) (operators : Operators) :
    Except Violation Combination := do
  let running := (combination.get? parameter).getD Combined.empty
  let next ← blame parameter (running.combineEntry operators)
  return combination.insert parameter next

/-- Adds a policy, entry by entry. -/
def addPolicy (combination : Combination) (policy : Policy) : Except Violation Combination :=
  policy.entries.foldlM (fun combination (parameter, operators) =>
    combination.addEntry parameter operators) combination

/-- The combined policy, after the last check of each parameter in order. -/
def finish (combination : Combination) : Except Violation Policy :=
  combination.foldlM (fun policy (parameter, combined) => do
    blame parameter combined.checkDefault
    return policy.putEntry parameter combined.operators) Policy.empty

end Combination

/-- Combines policies, the superior one first. -/
def Policy.combine (policies : List Policy) : Except Violation Policy := do
  let combination ← policies.foldlM Combination.addPolicy []
  combination.finish

end Federation
