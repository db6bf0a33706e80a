import Federation.Proofs.Resolution.Climb
import Federation.Resolution.Outcome

/-!
# What a chain was concluded from

A resolution that returns a chain has checked the leaf, found a path and treated the policies on it.
This file takes that apart once, in both directions.

**Chains.**  `TrustChain.assembled` reads the fields of an assembled chain; it expires no later than
any of its statements.

**Policies.**  `Resolver.Concluded` is what the treatment of the policies has established when it
succeeds.

**Resolutions.**  `Resolver.resolve_eq_afterSearch` says how a resolution ends.
`Resolver.resolved` and `Resolver.resolvedEntity` go back from a chain to the search and the leaf.
-/

namespace Federation

/-! ### Chains -/

namespace TrustChain

lemma earliestExpiry_le (first : Statement) (rest : List Statement) :
    ∀ s ∈ first :: rest, earliestExpiry first rest ≤ s.expiresAt := by
  have lower : ∀ (rest : List Statement) (bound : Int),
      let earliest := rest.foldl (fun earliest s => min earliest s.expiresAt) bound
      earliest ≤ bound ∧ ∀ s ∈ rest, earliest ≤ s.expiresAt := by
    intro rest
    induction rest with
    | nil =>
        intro bound
        exact ⟨Int.le_refl bound, fun s mem => by cases mem⟩
    | cons next rest ih =>
        intro bound
        obtain ⟨first_le, rest_le⟩ := ih (min bound next.expiresAt)
        refine ⟨Int.le_trans first_le (Int.min_le_left _ _), fun s mem => ?_⟩
        rcases List.mem_cons.mp mem with rfl | mem
        · exact Int.le_trans first_le (Int.min_le_right _ _)
        · exact rest_le s mem
  obtain ⟨first_le, rest_le⟩ := lower rest first.expiresAt
  intro s mem
  rcases List.mem_cons.mp mem with rfl | mem
  · exact first_le
  · exact rest_le s mem

/-- An assembled chain holds what it was assembled from. -/
lemma assembled {statements : List Statement} {type : EntityType} {policy : Policy}
    {metadata : Members Json} {chain : TrustChain}
    (h : assemble statements type policy metadata = .ok chain) :
    chain.statements = statements ∧ chain.policy = policy ∧ chain.metadata = metadata ∧
      ∀ s ∈ statements, chain.expiresAt ≤ s.expiresAt := by
  unfold assemble at h
  split at h
  · cases h
  · rename_i first rest
    split at h
    · cases h
    · cases h
      exact ⟨rfl, rfl, rfl, earliestExpiry_le first rest⟩

end TrustChain

namespace Resolver

/-! ### Policies -/

/-- What a chain is, once the policies on its path have been combined and applied. -/
structure Concluded (goal : Goal) (statements : List Statement) (chain : TrustChain) : Prop where
  statements_eq : chain.statements = statements
  combined : Statement.combinePolicies goal.entityType statements.dropLast = .ok chain.policy
  applied : applyPolicy goal chain.policy = .ok chain.metadata
  expiresAt_le : ∀ s ∈ statements, chain.expiresAt ≤ s.expiresAt

lemma concluded {goal : Goal} {statements : List Statement} {chain : TrustChain}
    (h : (conclude goal statements).1 = .ok chain) : Concluded goal statements chain := by
  unfold conclude at h
  dsimp only at h
  split at h
  · cases h
  · rename_i policy combined
    split at h
    · cases h
    · rename_i metadata applied
      split at h
      · cases h
      · rename_i chain' assembled
        cases h
        obtain ⟨statements_eq, policy_eq, metadata_eq, expires⟩ := TrustChain.assembled assembled
        rw [Except.mapError_eq_ok_iff, ← policy_eq] at combined
        rw [← policy_eq, ← metadata_eq] at applied
        exact ⟨statements_eq, combined, applied, expires⟩

/-! ### Resolutions -/

variable {σ : Type} {r : Resolver σ} {goal : Goal} {source : σ}

/-- The search of a resolution, from its first state. -/
def searchFrom (r : Resolver σ) (goal : Goal) (source : σ) :
    Except Failure (List Statement) × Search σ goal.room :=
  Search.run r goal (Search.start goal ⟨source, none⟩ [.passed .start .resolving])

/-- How a resolution ends after its search. -/
def afterSearch (goal : Goal) : Except Failure (List Statement) × Search σ goal.room → Outcome σ
  | (.ok path, final) =>
    arrive goal (path ++ [goal.leaf]) final.events.reverse final.knowledge.source
  | (.error failure, final) => giveUp failure final.events.reverse final.knowledge.source

/-- A resolution whose leaf may begin ends as its search does. -/
theorem resolve_eq_afterSearch (self_issued : goal.leaf.isSelfIssued = true)
    (current : goal.leaf.Current goal.now) (other : goal.leaf.subject ≠ goal.anchor) :
    r.resolve goal source = afterSearch goal (r.searchFrom goal source) := by
  have checked : (do goal.leaf.checkValidity goal.now; goal.leaf.checkRequired) = .ok () := by
    rw [current.1]
    exact current.2
  have begun : Search.run r goal
      (Search.start goal ⟨source, none⟩ [Event.passed .start .resolving].reverse) =
      r.searchFrom goal source := rfl
  unfold resolve
  dsimp only
  rw [if_neg (by simp [self_issued]), checked]
  dsimp only
  rw [if_neg other, begun]
  cases r.searchFrom goal source with
  | mk found final =>
      cases found with
      | ok path => rfl
      | error failure => rfl

/-- **Where a chain comes from.**  The leaf has passed its checks, and it is either the anchor
itself or a search has found the path above it. -/
theorem resolved {chain : TrustChain} (h : (r.resolve goal source).result = .ok chain) :
    goal.leaf.isSelfIssued = true ∧ goal.leaf.Current goal.now ∧
      (goal.leaf.subject = goal.anchor ∧ goal.leaf.keys.sharesKeyWith goal.anchorKeys = true ∧
          Concluded goal [goal.leaf] chain ∨
        goal.leaf.subject ≠ goal.anchor ∧ ∃ path final,
          searchFrom r goal source = (.ok path, final) ∧
            Concluded goal (path ++ [goal.leaf]) chain) := by
  unfold resolve at h
  dsimp only at h
  split at h
  · cases h
  · rename_i self_issued
    have self_issued' : goal.leaf.isSelfIssued = true := by simpa using self_issued
    split at h
    · cases h
    · rename_i checked
      obtain ⟨⟨⟩, valid, required⟩ := Except.bind_eq_ok_iff.mp checked
      refine ⟨self_issued', ⟨valid, required⟩, ?_⟩
      split at h
      · rename_i is_anchor
        split at h
        · rename_i shares
          exact .inl ⟨is_anchor, shares, concluded h⟩
        · cases h
      · rename_i other
        split at h
        · rename_i path found
          exact .inr ⟨other, path, _, Prod.ext found rfl, concluded h⟩
        · cases h

/-- A chain for an entity is one for the configuration the entity serves. -/
lemma resolvedEntity {leaf : EntityId} {terms : Terms} {chain : TrustChain}
    (h : (r.resolveEntity leaf terms source).result = .ok chain) :
    ∃ configuration source', r.Published leaf configuration ∧
      (r.resolve { terms with leaf := configuration } source').result = .ok chain := by
  unfold resolveEntity at h
  split at h
  · cases h
  · rename_i configuration known fetched
    exact ⟨configuration, known.source, published_of_fetchConfiguration fetched, h⟩

end Resolver

end Federation
