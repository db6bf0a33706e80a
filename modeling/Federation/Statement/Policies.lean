import Federation.Policy.Combination
import Federation.Statement.Basic

/-!
# The policies of a chain

The statements of a chain, the anchor's first and the leaf's left out, each may carry a policy for
the entity type that is asked for.  `Statement.combinePolicies` combines them.

**Operators that must be understood.**  Every statement may name policy operators that its readers
must implement.  They are looked at even when the statement has no policy for the type, and before
its policy is.

**Sources.**  `Statement.policySources` lists the statements whose policy was looked at, up to the
one that contradicts its superiors.
-/

namespace Federation.Statement

/-- Insists that the operators a statement calls critical are implemented. -/
def checkOperators (s : Statement) : Except Violation Unit :=
  match s.policyCritical.find? fun name => !Operator.isRecognized name with
  | some name => .error ⟨"", .unsupported name⟩
  | none => .ok ()

/-- Adds the policy of a statement. -/
def addPolicy (type : EntityType) (combination : Combination) (s : Statement) :
    Except Violation Combination := do
  s.checkOperators
  match s.policyFor type with
  | some policy => combination.addPolicy policy
  | none => return combination

/-- Combines the policies of statements, the superior first. -/
def combinePolicies (type : EntityType) (statements : List Statement) :
    Except Violation Policy := do
  let combination ← statements.foldlM (addPolicy type) []
  combination.finish

/-- The statements whose policy is looked at, starting from a combination. -/
def policySourcesFrom (type : EntityType) (combination : Combination) :
    List Statement → List Statement
  | [] => []
  | s :: rest =>
    match s.checkOperators with
    | .error _ => []
    | .ok () =>
      let tail :=
        match addPolicy type combination s with
        | .error _ => []
        | .ok next => policySourcesFrom type next rest
      if (s.policyFor type).isSome then s :: tail else tail

/-- The statements whose policy is looked at when the policies are combined. -/
def policySources (type : EntityType) (statements : List Statement) : List Statement :=
  policySourcesFrom type [] statements

end Federation.Statement
