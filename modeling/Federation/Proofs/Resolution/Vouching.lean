import Federation.Proofs.Resolution.Soundness

/-!
# Which keys the signatures of a chain are by

A superior lists keys of the entity below it, and the entity publishes keys in its own configuration.
The two sets must share a key; they need not be equal, and the key that signs need not be one they
share.

**Keys from above.**  `Resolver.ConfirmedBelow` would hold if every statement were verified by the
keys that the statement above it lists.  It fails for `Table.unlistedKey`, where the leaf signs with a
key that it publishes next to the one its superior lists.

**Keys bound from above.**  `Resolver.BoundBelow` is what holds: each statement is signed by a key that
its issuer publishes in a configuration signed by such a key, and one of the published keys is listed
above.  Only the statements of the anchor are verified by keys that were trusted before.
-/

namespace Federation

variable {σ : Type} {signed : String → Key → Prop}

/-! ### Keys from above -/

namespace Resolver

/-- The text served for a statement is verified by the keys. -/
def Confirmed (r : Resolver σ) (keys : KeySet) (s : Statement) : Prop :=
  ∃ raw claims, r.Serves s.issuer s.subject raw ∧ r.verifier.verify raw keys = .ok claims

/-- Read downwards, each statement is verified by the keys listed in the one above it. -/
def ConfirmedBelow (r : Resolver σ) : KeySet → List Statement → Prop
  | _, [] => True
  | listed, s :: below => r.Confirmed listed s ∧ r.ConfirmedBelow s.keys below

/-! ### Keys bound from above -/

/-- The statement is the content of a served text that the keys verify and one of them has signed. -/
def SignedBy (r : Resolver σ) (signed : String → Key → Prop) (keys : KeySet) (s : Statement) :
    Prop :=
  ∃ raw claims, r.Serves s.issuer s.subject raw ∧ r.verifier.verify raw keys = .ok claims ∧
    Statement.ofClaims claims = .ok s ∧ ∃ key ∈ keys.keys, signed raw key

/-- The configuration is the content of a served text that is signed by one of the keys the text
lists. -/
def SelfSigned (r : Resolver σ) (signed : String → Key → Prop) (s : Statement) : Prop :=
  s.issuer = s.subject ∧ ∃ raw claims peeked unverified, r.Serves s.issuer s.subject raw ∧
    r.verifier.peek raw = .ok peeked ∧ Statement.ofClaims peeked = .ok unverified ∧
    r.verifier.verify raw unverified.keys = .ok claims ∧ Statement.ofClaims claims = .ok s ∧
    ∃ key ∈ unverified.keys.keys, signed raw key

/-- Read downwards to a leaf, each statement is signed by a key from a configuration of its issuer
that is signed by one of its own keys and shares a key with those listed above; the leaf is such a
configuration itself. -/
def BoundBelow (r : Resolver σ) (signed : String → Key → Prop) : KeySet → List Statement → Prop
  | _, [] => False
  | listed, [leaf] => r.SelfSigned signed leaf ∧ listed.sharesKeyWith leaf.keys = true
  | listed, s :: next :: below =>
    (∃ configuration, configuration.subject = s.issuer ∧ r.SelfSigned signed configuration ∧
      listed.sharesKeyWith configuration.keys = true ∧
      r.SignedBy signed configuration.keys s) ∧ r.BoundBelow signed s.keys (next :: below)

variable {r : Resolver σ}

lemma signedBy_of_issued {keys : KeySet} {issuer subject : EntityId} {s : Statement}
    (signs : r.verifier.Signs signed) (issued : r.Issued keys issuer subject s) :
    r.SignedBy signed keys s := by
  obtain ⟨raw, claims, serves, verified, read, rfl, rfl⟩ := issued
  exact ⟨raw, claims, serves, verified, read, signs raw keys claims verified⟩

lemma selfSigned_of_published {entity : EntityId} {s : Statement}
    (signs : r.verifier.Signs signed) (published : r.Published entity s) :
    r.SelfSigned signed s := by
  obtain ⟨raw, claims, peeked, unverified, serves, peek, unread, verified, read, issuer, subject⟩ :=
    published
  have serves' : r.Serves s.issuer s.subject raw := by
    rw [issuer, subject]
    exact serves
  exact ⟨issuer.trans subject.symm, raw, claims, peeked, unverified, serves', peek, unread, verified,
    read, signs raw _ claims verified⟩

/-- The signatures below a statement that lists keys of the entity on top. -/
lemma boundBelow_of_climb (goal : Goal) {links : List Link} {listed : KeySet}
    (signs : r.verifier.Signs signed) (leaf : r.SelfSigned signed goal.leaf)
    (climb : Climb r goal links)
    (shares : listed.sharesKeyWith (Link.topOf goal.leaf links).keys = true) :
    r.BoundBelow signed listed (links.map Link.vouching ++ [goal.leaf]) := by
  induction climb generalizing listed with
  | leaf => exact ⟨leaf, shares⟩
  | @superior link links climb fresh other published binds ih =>
      have below := ih binds.shares
      have issuer : link.configuration.subject = link.vouching.issuer := by
        obtain ⟨_, _, _, _, _, issuer, _⟩ := binds.issued
        exact issuer.symm
      have here : ∃ configuration : Statement, configuration.subject = link.vouching.issuer ∧
          r.SelfSigned signed configuration ∧ listed.sharesKeyWith configuration.keys = true ∧
          r.SignedBy signed configuration.keys link.vouching :=
        ⟨link.configuration, issuer, selfSigned_of_published signs published, shares,
          signedBy_of_issued signs binds.issued⟩
      cases links with
      | nil => exact ⟨here, below⟩
      | cons next links => exact ⟨here, below⟩

/-- **Signatures are bound from above.**  In a chain for an entity other than the anchor, the anchor's
configuration and its statement are signed by trusted keys.  Every other signature is by a key that
its issuer publishes, in a set of which the statement above lists at least one. -/
theorem bound_of_resolveEntity {leaf : EntityId} {terms : Terms} {source : σ} {chain : TrustChain}
    (signs : r.verifier.Signs signed) (other : leaf ≠ terms.anchor)
    (h : (r.resolveEntity leaf terms source).result = .ok chain) :
    ∃ configuration vouching below, chain.statements = configuration :: vouching :: below ∧
      r.SignedBy signed terms.anchorKeys configuration ∧
      r.SignedBy signed terms.anchorKeys vouching ∧
      r.BoundBelow signed vouching.keys below := by
  obtain ⟨own, source', published, h⟩ := resolvedEntity h
  have named : own.subject = leaf := by
    obtain ⟨_, _, _, _, _, _, _, _, _, _, subject⟩ := published
    exact subject
  obtain ⟨_, _, found⟩ := resolved h
  rcases found with ⟨is_anchor, _⟩ | ⟨_, path, final, found, concluded⟩
  · exact absurd (named.symm.trans is_anchor) other
  obtain ⟨link, links, summit, rfl⟩ := Climb.summit_of_run found
  exact ⟨link.configuration, link.vouching, links.map Link.vouching ++ [own],
    concluded.statements_eq,
    signedBy_of_issued signs summit.configuration_issued,
    signedBy_of_issued signs summit.binds.issued,
    boundBelow_of_climb { terms with leaf := own } signs
      (selfSigned_of_published signs published) summit.climb summit.binds.shares⟩

end Resolver

/-- A relying party that publishes two keys, of which its superior lists one.  It signs with the
other. -/
def Table.unlistedKey : Table :=
  [configuration "https://anchor" "root" ["root"] [],
    vouching "https://anchor" "https://party" "root" ["listed"],
    configuration "https://party" "unlisted" ["listed", "unlisted"] ["https://anchor"]]

/-- The chain is bound to its superior by the listed key, with which the party did not sign. -/
theorem Table.bound_unlistedKey :
    ∃ chain configuration vouching below,
      (unlistedKey.resolver.resolveEntity ⟨"https://party"⟩ (terms "https://anchor" "root")
        ()).result = .ok chain ∧
      chain.statements = configuration :: vouching :: below ∧
      unlistedKey.resolver.SignedBy unlistedKey.signed (keySet ["root"]) configuration ∧
      unlistedKey.resolver.SignedBy unlistedKey.signed (keySet ["root"]) vouching ∧
      unlistedKey.resolver.BoundBelow unlistedKey.signed vouching.keys below := by
  have evaluated : (Resolver.chainOfEntityWithin 2 unlistedKey.resolver ⟨"https://party"⟩
      (terms "https://anchor" "root") ()).isSome = true := by
    decide +kernel
  obtain ⟨chain, found⟩ := Option.isSome_iff_exists.mp evaluated
  have resolved := Resolver.resolveEntity_of_chainWithin found
  obtain ⟨configuration, vouching, below, bound⟩ :=
    Resolver.bound_of_resolveEntity unlistedKey.signs_resolver (by decide) resolved
  exact ⟨chain, configuration, vouching, below, resolved, bound⟩

/-- **A key that no superior lists can sign.**  The chain of `Table.unlistedKey` is returned, although
the keys listed in its last statement but one do not verify the leaf's configuration. -/
theorem Table.unlistedKey_accepted :
    unlistedKey.resolver.verifier.Signs unlistedKey.signed ∧
    (⟨"https://party"⟩ : EntityId) ≠ (terms "https://anchor" "root").anchor ∧
    ∃ chain,
      (unlistedKey.resolver.resolveEntity ⟨"https://party"⟩ (terms "https://anchor" "root")
        ()).result = .ok chain ∧
      ¬ unlistedKey.resolver.ConfirmedBelow (keySet ["root"]) chain.statements.tail := by
  have evaluated : ((Resolver.chainOfEntityWithin 2 unlistedKey.resolver ⟨"https://party"⟩
      (terms "https://anchor" "root") ()).map fun chain => chain.statements.tail.map fun s =>
        (s.issuer.text, s.subject.text, s.keys.keys.map Key.id)) =
      some [("https://anchor", "https://party", [some "listed"]),
        ("https://party", "https://party", [some "listed", some "unlisted"])] := by
    decide +kernel
  obtain ⟨chain, found, shape⟩ := Option.map_eq_some_iff.mp evaluated
  refine ⟨unlistedKey.signs_resolver, by decide, chain,
    Resolver.resolveEntity_of_chainWithin found, ?_⟩
  intro confirmed
  obtain ⟨vouching, leaf_only, tail, listed, leaf_shape⟩ := List.map_eq_cons_iff.mp shape
  obtain ⟨leaf, none_below, rfl, names, _⟩ := List.map_eq_cons_iff.mp leaf_shape
  rw [tail] at confirmed
  obtain ⟨_, ⟨raw, claims, serves, verified⟩, _⟩ := confirmed
  have served : some raw = some "https://party about https://party" := by
    have issuer : leaf.issuer = ⟨"https://party"⟩ := congrArg (EntityId.mk ·.1) names
    have subject : leaf.subject = ⟨"https://party"⟩ := congrArg (EntityId.mk ·.2.1) names
    rw [← Except.toOption_eq_some_iff.mpr (answer_of_serves serves), issuer, subject]
    decide +kernel
  obtain ⟨signer, signature, key, mem, named⟩ := Verifier.ideal_verify_eq_ok verified
  have signer_eq : some signer = some "unlisted" := by
    have first : (unlistedKey.signature? raw).map Prod.fst = some signer := by
      rw [signature]
      rfl
    rw [← first, Option.some.inj served]
    decide +kernel
  have only_listed : vouching.keys.keys.map Key.id = [some "listed"] := congrArg (·.2.2) listed
  have on_list : key.id ∈ vouching.keys.keys.map Key.id := List.mem_map_of_mem mem
  rw [only_listed, named, signer_eq] at on_list
  simp at on_list

end Federation
