import Federation.Proofs.Resolution.Vouching
import Federation.Proofs.Thumbprints

/-!
# An anchor resolved as its own leaf

A configuration of the anchor can be accepted in two ways.  If the anchor is reached through hints,
its configuration must be verified by the trusted keys (`Resolver.anchorConfiguration`).  If the anchor
is the leaf, its configuration was verified by the keys it lists itself, and it is enough that one of
them is trusted.

**What is accepted.**  `Resolver.Recognized` says what the second way establishes.  The two ways agree
if every key that the configuration lists is trusted, in particular if it lists only one.

**What is not established.**  They do not agree in general: `Table.spareKey` signs with an untrusted key
that it lists next to the trusted one.
-/

namespace Federation

variable {σ : Type} {signed : String → Key → Prop}

/-! ### What is accepted -/

namespace Resolver

/-- What a configuration of the anchor has passed when the anchor is resolved as its own leaf. -/
structure Recognized (r : Resolver σ) (signed : String → Key → Prop) (trusted : KeySet)
    (anchor : EntityId) (configuration : Statement) : Prop where
  /-- It is by and about the anchor. -/
  names : configuration.issuer = anchor ∧ configuration.subject = anchor
  /-- Its text is verified by the keys it lists, and one of them has signed it. -/
  own : r.SignedBy signed configuration.keys configuration
  /-- One of the keys it lists is trusted, not necessarily the one that has signed. -/
  known : ∃ key ∈ configuration.keys.keys, key.IsAmong trusted
  /-- If all keys it lists are trusted, a trusted one has signed. -/
  by_trusted : (∀ key ∈ configuration.keys.keys, key.IsAmong trusted) →
    ∃ raw key, r.Serves anchor anchor raw ∧ signed raw key ∧ key.IsAmong trusted
  /-- If it lists a single key, that key is trusted and has signed. -/
  by_only : ∀ key, configuration.keys.keys = [key] →
    ∃ raw, r.Serves anchor anchor raw ∧ signed raw key ∧ key.IsAmong trusted
  /-- If it lists the trusted keys themselves, they verify the text. -/
  confirmed : configuration.keys = trusted → r.Confirmed trusted configuration

variable {r : Resolver σ}

lemma recognized_of_signedBy {trusted : KeySet} {anchor : EntityId} {configuration : Statement}
    (names : configuration.issuer = anchor ∧ configuration.subject = anchor)
    (own : r.SignedBy signed configuration.keys configuration)
    (shares : configuration.keys.sharesKeyWith trusted = true) :
    r.Recognized signed trusted anchor configuration := by
  have known := KeySet.sharesKeyWith_iff.mp shares
  obtain ⟨raw, claims, serves, verified, read, signer, listed, has_signed⟩ := id own
  have serves' : r.Serves anchor anchor raw := by
    rwa [names.1, names.2] at serves
  refine
    { names := names
      own := own
      known := known
      by_trusted := fun all => ⟨raw, signer, serves', has_signed, all signer listed⟩
      by_only := ?_
      confirmed := fun same => ⟨raw, claims, serves, same ▸ verified⟩ }
  intro key only
  obtain ⟨shared, shared_listed, among⟩ := known
  -- with one key on the list, the key that has signed is the one that is shared
  rw [only, List.mem_singleton] at listed shared_listed
  exact ⟨raw, serves', listed ▸ has_signed, shared_listed ▸ among⟩

/-- **An anchor that is its own leaf lists a trusted key and signs with a key it lists.**  Its chain is
its configuration alone. -/
theorem recognized_of_resolveEntity {terms : Terms} {source : σ} {chain : TrustChain}
    (faithful : r.verifier.Faithful) (signs : r.verifier.Signs signed)
    (h : (r.resolveEntity terms.anchor terms source).result = .ok chain) :
    ∃ configuration, chain.statements = [configuration] ∧
      r.Recognized signed terms.anchorKeys terms.anchor configuration := by
  obtain ⟨configuration, source', published, h⟩ := resolvedEntity h
  have issued := issued_of_published faithful published
  have names : configuration.issuer = terms.anchor ∧ configuration.subject = terms.anchor := by
    obtain ⟨_, _, _, _, _, names⟩ := issued
    exact names
  obtain ⟨_, _, found⟩ := resolved h
  rcases found with ⟨_, shares, concluded⟩ | ⟨other, _⟩
  · exact ⟨configuration, concluded.statements_eq,
      recognized_of_signedBy names (signedBy_of_issued signs issued) shares⟩
  · exact absurd names.2 other

end Resolver

/-- An anchor that lists the trusted key and a spare one, and signs with the spare one. -/
def Table.spareKey : Table :=
  [configuration "https://anchor" "spare" ["root", "spare"] []]

/-- Asks for the chain of the anchor of `Table.spareKey` itself. -/
def Table.anchorTerms : Terms :=
  terms "https://anchor" "root"

lemma Table.spareKey_resolved :
    ∃ chain, (spareKey.resolver.resolveEntity anchorTerms.anchor anchorTerms ()).result =
      .ok chain := by
  have evaluated : (spareKey.resolver.resolveEntity anchorTerms.anchor anchorTerms
      ()).result.toOption.isSome = true := by
    decide +kernel
  obtain ⟨chain, found⟩ := Option.isSome_iff_exists.mp evaluated
  exact ⟨chain, Except.toOption_eq_some_iff.mp found⟩

/-- The configuration of the chain shares a key with the trusted ones, by which it is recognized. -/
theorem Table.recognized_spareKey :
    ∃ chain configuration,
      (spareKey.resolver.resolveEntity anchorTerms.anchor anchorTerms ()).result = .ok chain ∧
      chain.statements = [configuration] ∧
      spareKey.resolver.Recognized spareKey.signed anchorTerms.anchorKeys anchorTerms.anchor
        configuration := by
  obtain ⟨chain, resolved⟩ := spareKey_resolved
  obtain ⟨configuration, alone, recognized⟩ :=
    Resolver.recognized_of_resolveEntity Verifier.ideal_faithful spareKey.signs_resolver resolved
  exact ⟨chain, configuration, resolved, alone, recognized⟩

/-- **An untrusted key can sign for the anchor.**  The chain of `Table.spareKey` is returned, although
the trusted key verifies no text that is served for the anchor, and the search would refuse the same
configuration if it reached the anchor through hints. -/
theorem Table.spareKey_accepted :
    spareKey.resolver.verifier.Signs spareKey.signed ∧
    (∃ chain, (spareKey.resolver.resolveEntity anchorTerms.anchor anchorTerms ()).result =
      .ok chain) ∧
    (∀ raw, spareKey.resolver.Serves anchorTerms.anchor anchorTerms.anchor raw →
      spareKey.resolver.verifier.verify raw anchorTerms.anchorKeys = .error (.badSignature raw)) ∧
    ∀ leaf, ∃ text, (spareKey.resolver.anchorConfiguration { anchorTerms with leaf }
      ⟨(), none⟩).1 = .error (.badSignature text) := by
  have served : spareKey.answer anchorTerms.anchor anchorTerms.anchor =
      .ok "https://anchor about https://anchor" := by
    rw [← Except.toOption_eq_some_iff]
    decide +kernel
  have refused : spareKey.resolver.verifier.verify "https://anchor about https://anchor"
      anchorTerms.anchorKeys = .error (.badSignature "https://anchor about https://anchor") := by
    rfl
  refine ⟨spareKey.signs_resolver, spareKey_resolved, ?_, ?_⟩
  · intro raw serves
    rw [answer_of_serves serves] at served
    rw [Except.ok.inj served, refused]
  · intro leaf
    refine ⟨"https://anchor about https://anchor", ?_⟩
    rfl

end Federation
