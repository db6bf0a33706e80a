import Federation.Policy.Operator

/-!
# Metadata policies

A `Policy` lists, for the metadata parameters it restricts, the operators on each.  Entries and the
operators of an entry keep the order in which they were first put, which is the order in which they
are written.

**Uniqueness.**  A parameter has one entry and an entry one operator per slot; `Policy.put` and
`Policy.putEntry` replace what is there.  `Policy.Canonical` states this.

**JSON.**  `Policy.ofJson` reads the object form and `Policy.toJson` writes it.  What can be wrong
with a written policy is `Policy.Defect`.
-/

namespace Federation

/-- The operators on one parameter, at most one per slot. -/
abbrev Operators := List Operator

namespace Operators

/-- The operator of a kind. -/
def find? (operators : Operators) (kind : Operator.Kind) : Option Operator :=
  List.find? (fun op => op.kind = kind) operators

/-- Adds an operator; one in the same slot is replaced where it stands. -/
def put : Operators → Operator → Operators
  | [], op => [op]
  | old :: rest, op => if old.sameSlot op then op :: rest else old :: put rest op

/-- The configuration of `value`. -/
def value? (operators : Operators) : Option Json :=
  match find? operators .value with
  | some (.value v) => some v
  | _ => none

/-- The configuration of `default`. -/
def default? (operators : Operators) : Option Json :=
  match find? operators .default with
  | some (.default v) => some v
  | _ => none

/-- The values of `add`. -/
def add? (operators : Operators) : Option (List Json) :=
  match find? operators .add with
  | some (.add list) => some list.values
  | _ => none

/-- The values of `one_of`. -/
def oneOf? (operators : Operators) : Option (List Json) :=
  match find? operators .oneOf with
  | some (.oneOf list) => some list.values
  | _ => none

/-- The values of `subset_of`. -/
def subsetOf? (operators : Operators) : Option (List Json) :=
  match find? operators .subsetOf with
  | some (.subsetOf list) => some list.values
  | _ => none

/-- The values of `superset_of`. -/
def supersetOf? (operators : Operators) : Option (List Json) :=
  match find? operators .supersetOf with
  | some (.supersetOf list) => some list.values
  | _ => none

/-- Whether `essential` is there and true. -/
def isEssential (operators : Operators) : Bool :=
  match find? operators .essential with
  | some (.essential required) => required
  | _ => false

/-- Whether the operators do something when the parameter is absent: they supply a value or insist
on one.  Checks alone never do. -/
def actsOnAbsent (operators : Operators) : Bool :=
  operators.any fun op =>
    match op with
    | .value _ | .add _ | .default _ => true
    | .essential required => required
    | .oneOf _ | .subsetOf _ | .supersetOf _ | .unknown _ _ => false

/-- The operators as an object, under their names. -/
def toJson (operators : Operators) : Json :=
  .object (Members.ofList (operators.map fun op => (op.name, op.config)))

/-- Whether two lists of operators are equal one by one. -/
def same : Operators → Operators → Bool
  | [], [] => true
  | a :: as, b :: bs => a.same b && same as bs
  | _, _ => false

end Operators

/-- The policy for the metadata of one entity type. -/
structure Policy where
  /-- The operators on each parameter. -/
  entries : Members Operators

namespace Policy

/-- The policy that asks for nothing. -/
def empty : Policy := ⟨[]⟩

instance : Inhabited Policy := ⟨empty⟩

/-- The operators on a parameter. -/
def get? (policy : Policy) (parameter : String) : Option Operators :=
  policy.entries.get? parameter

/-- Adds an operator to a parameter. -/
def put (policy : Policy) (parameter : String) (op : Operator) : Policy :=
  ⟨policy.entries.insert parameter (((policy.get? parameter).getD []).put op)⟩

/-- Adds or replaces all operators of a parameter. -/
def putEntry (policy : Policy) (parameter : String) (operators : Operators) : Policy :=
  ⟨policy.entries.insert parameter operators⟩

/-- The policy without a parameter. -/
def erase (policy : Policy) (parameter : String) : Policy :=
  ⟨policy.entries.erase parameter⟩

/-- How many parameters the policy names. -/
def size (policy : Policy) : Nat := policy.entries.length

/-- Whether the policy names no parameter. -/
def isEmpty (policy : Policy) : Bool := policy.entries.isEmpty

/-- No two operators of an entry share a slot and no parameter has two entries. -/
def Canonical (policy : Policy) : Prop :=
  policy.entries.Distinct ∧
    ∀ entry ∈ policy.entries, entry.2.Pairwise fun a b => a.sameSlot b = false

/-- Whether two policies are equal entry by entry, in the same order. -/
def same (a b : Policy) : Bool :=
  go a.entries b.entries
where
  go : Members Operators → Members Operators → Bool
  | [], [] => true
  | (p, as) :: rest, (q, bs) :: others => p == q && as.same bs && go rest others
  | _, _ => false

/-! ### Reading and writing -/

/-- What is wrong with a written policy. -/
inductive Defect where
  /-- The policy is no object. -/
  | notObject
  /-- What it says about a parameter is no object. -/
  | entryNotObject (parameter : String)
  /-- An operator has a configuration of the wrong form. -/
  | config (parameter operator : String) (defect : Operator.ConfigDefect)
deriving DecidableEq

/-- The defect in words. -/
def Defect.message : Defect → String
  | .notObject => "metadata policy must be a JSON object"
  | .entryNotObject parameter => s!"policy for parameter {parameter} must be a JSON object"
  | .config parameter operator defect =>
    s!"invalid {operator} configuration for {parameter}: " ++ defect.message

/-- One operator of a parameter from its written form. -/
def operatorOfJson (parameter name : String) (config : Json) : Except Defect Operator :=
  (Operator.ofConfig name config).mapError (Defect.config parameter name)

/-- The operators of a parameter from their written form. -/
def operatorsOfMembers (parameter : String) (members : Members Json) : Except Defect Operators :=
  members.foldlM (fun operators (name, config) =>
    (operatorOfJson parameter name config).map operators.put) []

/-- A policy from the members of its object form. -/
def ofMembers (members : Members Json) : Except Defect Policy :=
  members.foldlM (fun policy (parameter, written) =>
    match written with
    | .object operators =>
      (operatorsOfMembers parameter operators).map (policy.putEntry parameter)
    | _ => .error (.entryNotObject parameter)) empty

/-- A policy from its object form. -/
def ofJson : Json → Except Defect Policy
  | .object members => ofMembers members
  | _ => .error .notObject

/-- The object form. -/
def toJson (policy : Policy) : Json :=
  .object (Members.ofList (policy.entries.mapValues Operators.toJson))

end Policy

end Federation
