import Federation.Proofs.Policy.Application
import Federation.Proofs.Resolution.Table

/-!
# The policies of superiors

No superior's policy can be escaped: the metadata of a chain satisfy each policy on the path by
itself, not only the combination of all of them.

**Statements.**  `Statement.Asks` and `Statement.Names` read the policy of a statement, and
`Statement.covered_of_combinePolicies` follows the combination through all of them.

**The theorem.**  `Resolver.Policed` collects what is known of the metadata of a chain, and
`Resolver.policed_of_resolve` proves it of every chain, that of the anchor itself included.
-/

namespace Federation

/-! ### Statements -/

namespace Statement

variable {type : EntityType} {s : Statement} {combination combination' : Combination}

/-- The statement's policy for the type puts the operator on the parameter. -/
def Asks (s : Statement) (type : EntityType) (parameter : String) (op : Operator) : Prop :=
  ∃ policy, s.policyFor type = some policy ∧ policy.Asks parameter op

/-- The statement's policy for the type has an entry for the parameter. -/
def Names (s : Statement) (type : EntityType) (parameter : String) : Prop :=
  ∃ policy, s.policyFor type = some policy ∧ policy.Names parameter

/-- Every operator the statement calls critical is implemented. -/
def Understood (s : Statement) : Prop :=
  ∀ name ∈ s.policyCritical, Operator.isRecognized name = true

lemma understood_of_checkOperators (h : s.checkOperators = .ok ()) : s.Understood := by
  unfold checkOperators at h
  split at h
  · cases h
  · rename_i none_unknown
    intro name mem
    simpa using List.find?_eq_none.mp none_unknown name mem

/-- Adding the policy of a statement covers what it asks for and uncovers nothing. -/
lemma extends_of_addPolicy (h : addPolicy type combination s = .ok combination') :
    s.Understood ∧ Combination.Extends (s.Asks type) (s.Names type) combination combination' := by
  obtain ⟨⟨⟩, checked, h⟩ := Except.bind_eq_ok_iff.mp h
  refine ⟨understood_of_checkOperators checked, ?_⟩
  cases held : s.policyFor type with
  | none =>
      rw [held] at h
      cases h
      refine Combination.Extends.refl ?_
      rintro parameter op ⟨policy, held', _⟩
      rw [held] at held'
      cases held'
  | some policy =>
      rw [held] at h
      have extended := Combination.extends_of_addPolicy h
      refine { extended with covers := ?_, origin := ?_ }
      · rintro parameter op ⟨policy', held', asks⟩
        rw [held] at held'
        cases held'
        exact extended.covers parameter op asks
      · intro parameter named
        exact (extended.origin parameter named).imp (fun names => ⟨policy, held, names⟩)
          fun earlier => earlier

/-- **A combined policy covers what every statement asks for**, and has entries for no other
parameters than the statements have. -/
theorem covered_of_combinePolicies {statements : List Statement} {policy : Policy}
    (h : combinePolicies type statements = .ok policy) :
    (∀ s ∈ statements, s.Understood) ∧
      ∃ combination : Combination, combination.Distinct ∧
        policy.entries = combination.mapValues Combined.operators ∧
        (∀ s ∈ statements, ∀ parameter op, s.Asks type parameter op →
          combination.Covers parameter op) ∧
        ∀ parameter ∈ Members.keys combination, ∃ s ∈ statements, s.Names type parameter := by
  obtain ⟨combination, folded, finished⟩ := Except.bind_eq_ok_iff.mp h
  have extended := Combination.Extends.of_foldlM folded fun _ _ _ added =>
    (extends_of_addPolicy added).2
  have distinct : combination.Distinct := extended.distinct List.nodup_nil
  refine ⟨fun s mem => ?_, combination, distinct, Combination.finish_entries distinct finished,
    fun s mem parameter op asks => extended.covers parameter op ⟨s, mem, asks⟩,
    fun parameter named => ?_⟩
  · exact List.foldlM_of_mem (I := fun _ => True) (Q := fun _ => s.Understood) folded mem trivial
      (fun _ _ _ _ _ _ => trivial) (fun _ _ _ added => (extends_of_addPolicy added).1)
      fun _ _ _ _ _ understood _ => understood
  · rcases extended.origin parameter named with names | none_before
    · exact names
    · cases none_before

end Statement

/-! ### Chains -/

namespace Resolver

variable {σ : Type} {r : Resolver σ} {goal : Goal} {source : σ} {chain : TrustChain}

/-- What is known of the metadata of a chain, given those the leaf claims for itself.  The superiors
are the statements of the chain but the last. -/
structure Policed (goal : Goal) (chain : TrustChain) (own : Members Json) : Prop where
  /-- The chain ends with the leaf. -/
  leaf_eq : chain.leaf = goal.leaf
  /-- The leaf claims metadata for the type that is asked for. -/
  claimed : goal.leaf.metadataFor goal.entityType = some own
  /-- The policy of the chain combines those of the superiors. -/
  combined : Statement.combinePolicies goal.entityType chain.statements.dropLast = .ok chain.policy
  /-- The metadata of the chain are those of the leaf under that policy. -/
  applied : chain.policy.apply own = .ok chain.metadata
  /-- No superior insists on an operator that is not implemented. -/
  understood : ∀ s ∈ chain.statements.dropLast, s.Understood
  /-- The metadata meet every operator of every superior. -/
  met : ∀ s ∈ chain.statements.dropLast, ∀ parameter op, s.Asks goal.entityType parameter op →
    op.Met (chain.metadata.get? parameter)
  /-- A parameter no superior names is the leaf's own. -/
  untouched : ∀ parameter,
    (∀ s ∈ chain.statements.dropLast, ¬ s.Names goal.entityType parameter) →
      chain.metadata.get? parameter = own.get? parameter

lemma policed_of_concluded (path : List Statement)
    (h : Concluded goal (path ++ [goal.leaf]) chain) : ∃ own, Policed goal chain own := by
  have combined := h.combined
  rw [← h.statements_eq] at combined
  obtain ⟨understood, combination, distinct, entries, covered, origin⟩ :=
    Statement.covered_of_combinePolicies combined
  have applied := h.applied
  unfold applyPolicy at applied
  cases claimed : goal.leaf.metadataFor goal.entityType with
  | none =>
      rw [claimed] at applied
      cases applied
  | some own =>
      rw [claimed] at applied
      have applied' := Except.mapError_eq_ok_iff.mp applied
      have keys : chain.policy.entries.keys = Members.keys combination := by
        rw [entries, Members.keys_mapValues]
      have distinct' : chain.policy.entries.Distinct := by
        rw [Members.Distinct, keys]
        exact distinct
      obtain ⟨satisfied, untouched⟩ := Policy.satisfied_of_apply distinct' applied'
      refine ⟨own,
        { leaf_eq := by simp [TrustChain.leaf, h.statements_eq]
          claimed := claimed
          combined := combined
          applied := applied'
          understood := understood
          met := fun s mem parameter op asks => ?_
          untouched := fun parameter unnamed => untouched parameter fun named => ?_ }⟩
      · obtain ⟨running, found, covers⟩ := covered s mem parameter op asks
        have listed : (parameter, running.operators) ∈ chain.policy.entries := by
          rw [entries]
          exact Members.mem_mapValues (Members.mem_of_get? found)
        exact Operator.met_of_covers covers (satisfied _ listed)
      · rw [keys] at named
        obtain ⟨s, mem, names⟩ := origin parameter named
        exact unnamed s mem names

/-- **No policy of a superior is escaped.**  However many superiors are on the path and in whatever
way their policies interact, the metadata of a chain meet each of them. -/
theorem policed_of_resolve (h : (r.resolve goal source).result = .ok chain) :
    ∃ own, Policed goal chain own := by
  obtain ⟨_, _, found⟩ := resolved h
  rcases found with ⟨_, _, concluded⟩ | ⟨_, path, final, _, concluded⟩
  · exact policed_of_concluded [] concluded
  · exact policed_of_concluded path concluded

end Resolver

namespace Table

/-- The policy of a superior for relying parties. -/
def policyOn (entries : Members Json) : Members Json :=
  [("metadata_policy", .object [("openid_relying_party", .object entries)])]

/-- A relying party both of whose superiors restrict its scopes. -/
def underPolicies : Table :=
  [configuration "https://anchor" "root" ["root"] [],
    { vouching "https://anchor" "https://authority" "root" ["authority"] with
      further := policyOn
        [("scopes", .object [("subset_of", .array [.string "openid", .string "email"])]),
          ("logo", .object [("value", .null)])] },
    configuration "https://authority" "authority" ["authority"] ["https://anchor"],
    { vouching "https://authority" "https://party" "authority" ["party"] with
      further := policyOn
        [("scopes", .object [("superset_of", .string "openid"), ("essential", .boolean true)])] },
    { configuration "https://party" "party" ["party"] ["https://authority"] with
      further :=
        [("metadata", .object [("openid_relying_party", .object
            [("scopes", .array [.string "openid"]), ("logo", .string "party.png")])]),
          ("authority_hints", .array [.string "https://authority"])] }]

/-- The metadata of the chain are the scopes alone, as the combined policies leave them. -/
theorem policed_underPolicies :
    ∃ leaf chain own,
      (underPolicies.resolver.resolve { terms "https://anchor" "root" with leaf } ()).result =
        .ok chain ∧
      chain.metadata.keys = ["scopes"] ∧
      Resolver.Policed { terms "https://anchor" "root" with leaf } chain own := by
  have evaluated : ((underPolicies.getLast?.bind fun entry =>
      (Statement.ofClaims entry.claims).toOption).bind fun leaf =>
        ((Resolver.chainWithin 4 underPolicies.resolver
          { terms "https://anchor" "root" with leaf } ()).filter fun chain =>
            chain.metadata.keys = ["scopes"])).isSome = true := by
    decide +kernel
  obtain ⟨chain, found⟩ := Option.isSome_iff_exists.mp evaluated
  obtain ⟨leaf, _, found⟩ := Option.bind_eq_some_iff.mp found
  obtain ⟨found, kept⟩ := Option.filter_eq_some_iff.mp found
  obtain ⟨_, resolved⟩ := Resolver.resolve_of_chainWithin found
  obtain ⟨own, policed⟩ := Resolver.policed_of_resolve resolved
  exact ⟨leaf, chain, own, resolved, by simpa using kept, policed⟩

end Table

end Federation
