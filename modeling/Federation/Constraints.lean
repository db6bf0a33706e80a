import Federation.Failure

/-!
# Constraints on a chain

A superior may limit what appears below it in a chain.

**Path length.**  `maxPathLength` bounds the number of entities between the subject of the statement
and the trust anchor.

**Names.**  `permitted` and `excluded` hold roots of subtrees of identifiers.  Exclusion wins over
permission.  A list that is absent and a list that is empty are different things: without a
permitted list everything is permitted, with an empty one nothing is.

**JSON.**  `Constraints.read` and `Constraints.toJson`.  Empty lists are not written.
-/

namespace Federation

/-- Limits on what appears in a chain. -/
structure Constraints where
  /-- The greatest number of entities between the subject and the anchor. -/
  maxPathLength : Option Nat
  /-- The roots outside of which nothing is permitted. -/
  permitted : Option (List EntityId)
  /-- The roots under which nothing is permitted. -/
  excluded : Option (List EntityId)
deriving DecidableEq

namespace Constraints

/-- No limits. -/
def none : Constraints := ⟨.none, .none, .none⟩

/-- Holds an identifier against the lists of names. -/
def checkNaming (c : Constraints) (entity : EntityId) : Except ConstraintViolation Unit :=
  match (c.excluded.getD []).find? fun root => entity.isUnder root with
  | some root => .error (.excluded entity root)
  | .none =>
    match c.permitted with
    | .none => .ok ()
    | some roots =>
      if roots.any fun root => entity.isUnder root then .ok () else .error (.notPermitted entity)

/-! ### JSON -/

/-- The largest path length that can be written. -/
def greatestPathLength : Nat := UInt32.size - 1

/-- A path length from its written form. -/
def readPathLength : Option Json → Except Failure (Option Nat)
  | .none => .ok .none
  | some .null => .ok .none
  | some value =>
    match value.nat64? with
    | .none => .error (.malformed "max_path_length must be a non-negative integer")
    | some n =>
      if n ≤ greatestPathLength then .ok (some n)
      else .error (.malformed s!"max_path_length out of range: {n}")

/-- One identifier of a list from its written form. -/
def readId (claim : String) : Json → Except Failure EntityId
  | .string text => EntityId.read text
  | _ => .error (.malformed s!"{claim} entries must be strings")

/-- A list of identifiers from its written form. -/
def readIds (claim : String) : Json → Except Failure (List EntityId)
  | .array items => items.mapM (readId claim)
  | _ => .error (.malformed s!"{claim} must be a JSON array")

/-- A list of names that may be absent. -/
def readNames (claim : String) (written : Option Json) :
    Except Failure (Option (List EntityId)) :=
  match written with
  | .none => .ok .none
  | some value => (readIds claim value).map some

/-- Constraints from the members of their written form. -/
def readMembers (members : Members Json) : Except Failure Constraints := do
  let maxPathLength ← readPathLength (members.get? "max_path_length")
  match members.get? "naming_constraints" with
  | .none => return ⟨maxPathLength, .none, .none⟩
  | some .null => return ⟨maxPathLength, .none, .none⟩
  | some (.object naming) =>
    let permitted ← readNames "permitted" (Members.get? naming "permitted")
    let excluded ← readNames "excluded" (Members.get? naming "excluded")
    return ⟨maxPathLength, permitted, excluded⟩
  | some _ => .error (.malformed "naming_constraints must be a JSON object")

/-- Constraints from their written form. -/
def read : Json → Except Failure Constraints
  | .object members => readMembers members
  | _ => .error (.malformed "constraints must be a JSON object")

/-- A list of names as a member, unless it is empty. -/
def namesMember (claim : String) : Option (List EntityId) → Members Json
  | .none => []
  | some [] => []
  | some ids => [(claim, .array (ids.map fun id => .string id.text))]

/-- The constraints as they are written. -/
def toJson (c : Constraints) : Json :=
  let naming := namesMember "permitted" c.permitted ++ namesMember "excluded" c.excluded
  .object <|
    (match c.maxPathLength with
      | .none => []
      | some max => [("max_path_length", Json.int max)]) ++
    (if naming.isEmpty then [] else [("naming_constraints", .object naming)])

end Constraints

end Federation
