import Federation.Proofs.Resolution.Conclusion
import Federation.Proofs.Resolution.Steady
import Federation.Proofs.Signatures

/-!
# Federations given by a table

A federation that is written down statement by statement, with a verifier that cannot be deceived.
Its resolutions can be evaluated, which shows that what is proved of resolutions is proved of some.

**An ideal verifier.**  `Verifier.ideal` knows the signer of every text, so nothing can be forged.

**Tables.**  A `Table` lists who has stated what about whom, and `Table.resolver` serves it.

**Evaluation.**  `Resolver.chainWithin` makes a bounded number of steps by structural recursion.
-/

namespace Federation

/-! ### An ideal verifier -/

namespace Verifier

/-- The verifier of texts of which it is known whose key has signed which claims. -/
def ideal (signatures : String → Option (String × Json)) : Verifier where
  verify raw keys :=
    match signatures raw with
    | none => .error (.malformed raw)
    | some (signer, claims) =>
      if keys.keys.any fun key => key.id == some signer then .ok claims
      else .error (.badSignature raw)
  peek raw :=
    match signatures raw with
    | none => .error (.malformed raw)
    | some (_, claims) => .ok claims

variable {signatures : String → Option (String × Json)}

lemma ideal_verify_eq_ok {raw : String} {keys : KeySet} {claims : Json}
    (h : (ideal signatures).verify raw keys = .ok claims) :
    ∃ signer, signatures raw = some (signer, claims) ∧ ∃ key ∈ keys.keys, key.id = some signer := by
  unfold ideal at h
  dsimp only at h
  split at h
  · cases h
  · rename_i signer claims' known
    split at h
    · rename_i found
      cases h
      obtain ⟨key, mem, named⟩ := List.any_eq_true.mp found
      exact ⟨signer, known, key, mem, beq_iff_eq.mp named⟩
    · cases h

lemma ideal_faithful : (ideal signatures).Faithful := by
  intro raw keys claims h
  obtain ⟨signer, known, _⟩ := ideal_verify_eq_ok h
  simp only [ideal, known]

lemma ideal_signs :
    (ideal signatures).Signs fun raw key => ∃ signer claims,
      signatures raw = some (signer, claims) ∧ key.id = some signer := by
  intro raw keys claims h
  obtain ⟨signer, known, key, mem, named⟩ := ideal_verify_eq_ok h
  exact ⟨key, mem, signer, claims, known, named⟩

end Verifier

/-! ### Tables -/

/-- A statement of a table. -/
structure Table.Entry where
  issuer : String
  subject : String
  /-- The identifier of the key that has signed. -/
  signer : String
  /-- The identifiers of the keys of the subject. -/
  keys : List String
  /-- The claims that not every statement makes. -/
  further : Members Json

/-- The statements of a federation. -/
abbrev Table : Type :=
  List Table.Entry

namespace Table

/-- A key that is told from others by its identifier. -/
def key (id : String) : Key :=
  { type := "OKP", curve := some "Ed25519", x := some id, id := some id, algorithm := none,
    purpose := none, others := [] }

/-- The keys of these identifiers. -/
def keySet (ids : List String) : KeySet :=
  ⟨ids.map key⟩

/-- What a statement says.  It is valid for the first hundred seconds. -/
def Entry.claims (entry : Entry) : Json :=
  .object <|
    [("iss", .string entry.issuer), ("sub", .string entry.subject), ("iat", .int 0),
      ("exp", .int 100), ("jwks", (keySet entry.keys).toJson)] ++ entry.further

/-- The text a statement is served as. -/
def Entry.text (entry : Entry) : String :=
  entry.issuer ++ " about " ++ entry.subject

/-- The signer and the claims of a text, if it stands for a statement of the table. -/
def signature? (table : Table) (raw : String) : Option (String × Json) :=
  (table.find? fun entry => entry.text == raw).map fun entry => (entry.signer, entry.claims)

/-- Who has signed what in a table. -/
def signed (table : Table) (raw : String) (key : Key) : Prop :=
  ∃ signer claims, table.signature? raw = some (signer, claims) ∧ key.id = some signer

/-- The text of the statement of an issuer about a subject. -/
def answer (table : Table) (issuer subject : EntityId) : Except FetchFailure String :=
  match table.find? fun entry => entry.issuer == issuer.text && entry.subject == subject.text with
  | none => .error (.notFound issuer subject)
  | some entry => .ok entry.text

/-- Serves the statements of a table. -/
def resolver (table : Table) : Resolver Unit where
  fetcher := Fetcher.ofFunction table.answer
  verifier := Verifier.ideal table.signature?

lemma signs_resolver (table : Table) : table.resolver.verifier.Signs table.signed :=
  Verifier.ideal_signs

/-- A table always gives the same answers. -/
lemma steady_resolver (table : Table) : table.resolver.Steady :=
  fun _ _ _ _ => rfl

lemma answer_of_serves {table : Table} {issuer subject : EntityId} {raw : String}
    (serves : table.resolver.Serves issuer subject raw) :
    table.answer issuer subject = .ok raw := by
  obtain ⟨_, answered⟩ := serves
  exact answered

/-- A configuration for relying parties, with its superiors. -/
def configuration (entity signer : String) (keys hints : List String) : Entry :=
  { issuer := entity, subject := entity, signer, keys
    further := [("metadata", .object [("openid_relying_party", .object [])]),
      ("authority_hints", .array (hints.map .string))] }

/-- The statement of a superior that vouches for keys. -/
def vouching (issuer subject signer : String) (keys : List String) : Entry :=
  { issuer, subject, signer, keys, further := [] }

/-- Asks for a chain up to an anchor with a trusted key, in the middle of the validity. -/
def terms (anchor key : String) : Terms :=
  { anchor := ⟨anchor⟩, anchorKeys := keySet [key], maxHops := Terms.defaultMaxHops,
    entityType := .openidRelyingParty, now := 50 }

end Table

namespace Resolver

variable {σ : Type} {r : Resolver σ} {goal : Goal} {source : σ}

/-! ### Evaluation -/

/-- The chain of a leaf other than the anchor, if the search takes at most so many steps. -/
def chainWithin (n : Nat) (r : Resolver σ) (goal : Goal) (source : σ) : Option TrustChain :=
  if goal.leaf.isSelfIssued = true ∧ goal.leaf.subject ≠ goal.anchor then
    match (do goal.leaf.checkValidity goal.now; goal.leaf.checkRequired : Except Failure Unit),
        Search.within r goal n (Search.start goal ⟨source, none⟩ [.passed .start .resolving]) with
    | .ok (), .done (.ok path) _ => (conclude goal (path ++ [goal.leaf])).1.toOption
    | _, _ => none
  else none

lemma found_of_chainWithin {n : Nat} {chain : TrustChain}
    (h : chainWithin n r goal source = some chain) :
    goal.leaf.isSelfIssued = true ∧ goal.leaf.Current goal.now ∧
      goal.leaf.subject ≠ goal.anchor ∧ ∃ path final, r.searchFrom goal source = (.ok path, final) ∧
        (conclude goal (path ++ [goal.leaf])).1 = .ok chain := by
  unfold chainWithin at h
  split at h
  · rename_i begun
    obtain ⟨self_issued, other⟩ := begun
    split at h
    · rename_i path final checked found
      obtain ⟨⟨⟩, valid, required⟩ := Except.bind_eq_ok_iff.mp checked
      exact ⟨self_issued, ⟨valid, required⟩, other, path, final, Search.run_eq_of_within found,
        Except.toOption_eq_some_iff.mp h⟩
    · cases h
  · cases h

lemma resolve_of_chainWithin {n : Nat} {chain : TrustChain}
    (h : chainWithin n r goal source = some chain) :
    goal.leaf.subject ≠ goal.anchor ∧ (r.resolve goal source).result = .ok chain := by
  obtain ⟨self_issued, current, other, path, final, found, concluded⟩ := found_of_chainWithin h
  refine ⟨other, ?_⟩
  rw [resolve_eq_afterSearch self_issued current other, found]
  exact concluded

/-- The chain of an entity other than the anchor, if the search takes at most so many steps. -/
def chainOfEntityWithin (n : Nat) (r : Resolver σ) (leaf : EntityId) (terms : Terms) (source : σ) :
    Option TrustChain :=
  match r.fetchConfiguration leaf ⟨source, none⟩ with
  | (.error _, _) => none
  | (.ok configuration, known) => chainWithin n r { terms with leaf := configuration } known.source

lemma resolveEntity_of_chainWithin {n : Nat} {leaf : EntityId} {terms : Terms} {chain : TrustChain}
    (h : chainOfEntityWithin n r leaf terms source = some chain) :
    (r.resolveEntity leaf terms source).result = .ok chain := by
  simp only [chainOfEntityWithin] at h
  simp only [resolveEntity]
  cases fetched : r.fetchConfiguration leaf ⟨source, none⟩ with
  | mk answer known =>
      rw [fetched] at h
      cases answer with
      | error failure => cases h
      | ok configuration => exact (resolve_of_chainWithin h).2

end Resolver

end Federation
