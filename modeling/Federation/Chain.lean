import Federation.Calendar
import Federation.Statement.Basic

/-!
# Trust chains

The statements that lead from the configuration of a trust anchor down to the configuration of a
leaf, with the policy and the metadata they result in.

**Links.**  Each statement is issued by the subject of the one before it.  `TrustChain.assemble`
refuses anything else, so a `TrustChain` carries the proof that it holds a statement.

**Expiry.**  A chain expires with the first of its statements.

**Path.**  `TrustChain.path` names each entity of the chain once, anchor first.
-/

namespace Federation

/-- A chain of statements and what follows from it for the leaf. -/
structure TrustChain where
  /-- The statements, the anchor's configuration first. -/
  statements : List Statement
  /-- When the first statement expires. -/
  expiresAt : Int
  entityType : EntityType
  /-- The combined policy of the superiors. -/
  policy : Policy
  /-- The metadata of the leaf under that policy. -/
  metadata : Members Json
  statements_ne_nil : statements ≠ []

namespace TrustChain

/-- The first two statements of a list that are not linked. -/
def brokenLink? : List Statement → Option (Statement × Statement)
  | above :: below :: rest =>
    if below.issuer = above.subject then brokenLink? (below :: rest) else some (above, below)
  | _ => none

/-- The first end of validity among statements. -/
def earliestExpiry (first : Statement) (rest : List Statement) : Int :=
  rest.foldl (fun earliest s => min earliest s.expiresAt) first.expiresAt

/-- The chain that statements form. -/
def assemble (statements : List Statement) (entityType : EntityType) (policy : Policy)
    (metadata : Members Json) : Except Failure TrustChain :=
  match statements with
  | [] => .error (.mismatch "empty trust chain")
  | first :: rest =>
    match brokenLink? (first :: rest) with
    | some (above, below) =>
      .error (.mismatch
        s!"statement issued by {below.issuer} does not follow statement about {above.subject}")
    | none =>
      .ok { statements := first :: rest
            expiresAt := earliestExpiry first rest
            entityType, policy, metadata
            statements_ne_nil := by simp }

/-- The configuration of the anchor. -/
def anchor (chain : TrustChain) : Statement :=
  chain.statements.head chain.statements_ne_nil

/-- The configuration of the leaf. -/
def leaf (chain : TrustChain) : Statement :=
  chain.statements.getLast chain.statements_ne_nil

/-- The number of statements. -/
def size (chain : TrustChain) : Nat :=
  chain.statements.length

/-- A list in which runs of one entity are shortened to one mention. -/
def withoutRepeats : List EntityId → List EntityId
  | a :: b :: rest => if a = b then withoutRepeats (b :: rest) else a :: withoutRepeats (b :: rest)
  | short => short

/-- The entities of the chain, anchor first. -/
def path (chain : TrustChain) : List EntityId :=
  withoutRepeats (chain.statements.map Statement.subject)

/-- A summary of the chain. -/
def toJson (chain : TrustChain) : Json :=
  .object
    [("trust_anchor", .string chain.anchor.subject.text),
      ("subject", .string chain.leaf.subject.text),
      ("entity_type", .string chain.entityType.name),
      ("path", .array (chain.path.map fun id => .string id.text)),
      ("expires_at", .int chain.expiresAt),
      ("expires", .string (Calendar.text chain.expiresAt)),
      ("metadata_policy", chain.policy.toJson),
      ("metadata", .object chain.metadata)]

end TrustChain

end Federation
