import Federation.Chain
import Federation.Policy.Application
import Federation.Resolution.Search
import Federation.Statement.Policies

/-!
# Resolving trust chains

A resolution searches a path from the leaf to the trust anchor, combines the policies on it and
holds the metadata of the leaf to them.

**Search.**  `Resolver.resolve` starts from a configuration of the leaf that the caller has verified,
`Resolver.resolveEntity` fetches it first.  A leaf that is the anchor itself needs no search, but
must publish a key the caller trusts.

**Policies.**  The first path that reaches the anchor is final.  If its policies contradict each
other, or the metadata does not satisfy them, the resolution fails and no other path is tried.

**Record.**  An `Outcome` holds the result, everything that happened on the way and what the fetcher
has become.
-/

namespace Federation

/-- The end of a resolution. -/
structure Outcome (σ : Type) where
  result : Except Failure TrustChain
  /-- What has happened, in order. -/
  events : List Event
  /-- The state of the fetcher. -/
  source : σ

namespace Resolver

variable {σ : Type}

/-- A failure in a phase, with the passage to the phase it ends in. -/
def failIn (phase : Phase) (failure : Failure) : List Event :=
  if phase.canBecome failure.phase then [.passed phase failure.phase] else []

/-- The metadata of a leaf under a policy. -/
def applyPolicy (goal : Goal) (policy : Policy) : Except Failure (Members Json) :=
  match goal.leaf.metadataFor goal.entityType with
  | none => .error (.noMetadata goal.entityType.name)
  | some metadata => (policy.apply metadata).mapError .policy

/-- Combines the policies on a path and applies them. -/
def conclude (goal : Goal) (statements : List Statement) : Except Failure TrustChain × List Event :=
  let superiors := statements.dropLast
  let sources := (Statement.policySources goal.entityType superiors).map fun s =>
    Event.combined s.issuer s.subject
  let merging := .passed .anchorReached .policyMerging :: sources
  match (Statement.combinePolicies goal.entityType superiors).mapError .policy with
  | .error failure => (.error failure, merging ++ failIn .policyMerging failure)
  | .ok policy =>
    let applying := merging ++ [.passed .policyMerging .policyApplying]
    match applyPolicy goal policy with
    | .error failure => (.error failure, applying ++ failIn .policyApplying failure)
    | .ok metadata =>
      match TrustChain.assemble statements goal.entityType policy metadata with
      | .error failure => (.error failure, applying)
      | .ok chain => (.ok chain, applying ++ [.passed .policyApplying .resolved])

/-- Goes on from a path that has reached the anchor. -/
def arrive (goal : Goal) (statements : List Statement) (events : List Event) (source : σ) :
    Outcome σ :=
  let (result, further) := conclude goal statements
  { result
    source
    events := events ++
      [.passed .resolving .anchorReached, .reached statements.length] ++ further }

/-- Ends a resolution that has not reached the anchor. -/
def giveUp (failure : Failure) (events : List Event) (source : σ) : Outcome σ :=
  { result := .error failure, events := events ++ failIn .resolving failure, source }

/-- Resolves the chain of a leaf whose configuration the caller has verified. -/
def resolve (r : Resolver σ) (goal : Goal) (source : σ) : Outcome σ :=
  let leaf := goal.leaf
  if !leaf.isSelfIssued then
    { result := .error (.mismatch
        s!"leaf statement by {leaf.issuer} about {leaf.subject} is not an entity configuration")
      events := []
      source }
  else
    let begun := [Event.passed .start .resolving]
    match do leaf.checkValidity goal.now; leaf.checkRequired with
    | .error failure => giveUp failure begun source
    | .ok () =>
      if leaf.subject = goal.anchor then
        if leaf.keys.sharesKeyWith goal.anchorKeys then arrive goal [leaf] begun source
        else
          giveUp (.badSignature
            s!"configuration of {leaf.subject} is not signed with the trust anchor keys")
            begun source
      else
        let (found, final) :=
          Search.run r goal (Search.start goal ⟨source, none⟩ begun.reverse)
        match found with
        | .ok path => arrive goal (path ++ [leaf]) final.events.reverse final.knowledge.source
        | .error failure => giveUp failure final.events.reverse final.knowledge.source

/-- Fetches the configuration of a leaf and resolves its chain. -/
def resolveEntity (r : Resolver σ) (leaf : EntityId) (terms : Terms) (source : σ) :
    Outcome σ :=
  match r.fetchConfiguration leaf ⟨source, none⟩ with
  | (.error failure, known) => { result := .error failure, events := [], source := known.source }
  | (.ok configuration, known) => r.resolve { terms with leaf := configuration } known.source

end Resolver

end Federation
