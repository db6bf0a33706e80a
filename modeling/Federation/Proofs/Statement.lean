import Federation.Proofs.Checks
import Federation.Proofs.Members
import Federation.Statement.Claims

/-!
# What a statement is read from and written to

**Reading.**  `Statement.Decoded` says for each part of a statement which claim it was read from.

**Writing.**  `Statement.places` lists what is written for each registered claim.  Claims without a place
of their own never displace it (`Statement.Separate`), so a registered claim is found as it was written
(`Statement.get?_toMembers`).
-/

namespace Federation.Statement

variable {claims : Members Json} {s : Statement}

/-! ### Reading -/

/-- The statement is what the claims say. -/
structure Decoded (claims : Members Json) (s : Statement) : Prop where
  issuer : readId claims "iss" = .ok s.issuer
  subject : readId claims "sub" = .ok s.subject
  issuedAt : readTime claims "iat" = .ok s.issuedAt
  expiresAt : readTime claims "exp" = .ok s.expiresAt
  keys : ∃ written, readRequired claims "jwks" = .ok written ∧ KeySet.read written = .ok s.keys
  audience : readAudience (claims.get? "aud") = .ok s.audience
  metadata : readMetadata (claims.get? "metadata") = .ok s.metadata
  metadataPolicy : readPolicies (claims.get? "metadata_policy") = .ok s.metadataPolicy
  constraints : readConstraints (claims.get? "constraints") = .ok s.constraints
  authorityHints : readHints (claims.get? "authority_hints") = .ok s.authorityHints
  critical : readTexts claims "crit" = .ok s.critical
  policyCritical : readTexts claims "policy_language_crit" = .ok s.policyCritical
  /-- The other claims are kept as they are. -/
  others : s.others = otherClaims claims

lemma decoded_of_ofMembers (h : ofMembers claims = .ok s) : Decoded claims s := by
  obtain ⟨_, issuer, h⟩ := Except.bind_eq_ok_iff.mp h
  obtain ⟨_, subject, h⟩ := Except.bind_eq_ok_iff.mp h
  obtain ⟨_, issuedAt, h⟩ := Except.bind_eq_ok_iff.mp h
  obtain ⟨_, expiresAt, h⟩ := Except.bind_eq_ok_iff.mp h
  obtain ⟨written, required, h⟩ := Except.bind_eq_ok_iff.mp h
  obtain ⟨_, keys, h⟩ := Except.bind_eq_ok_iff.mp h
  obtain ⟨_, audience, h⟩ := Except.bind_eq_ok_iff.mp h
  obtain ⟨_, metadata, h⟩ := Except.bind_eq_ok_iff.mp h
  obtain ⟨_, metadataPolicy, h⟩ := Except.bind_eq_ok_iff.mp h
  obtain ⟨_, constraints, h⟩ := Except.bind_eq_ok_iff.mp h
  obtain ⟨_, authorityHints, h⟩ := Except.bind_eq_ok_iff.mp h
  obtain ⟨_, critical, h⟩ := Except.bind_eq_ok_iff.mp h
  obtain ⟨_, policyCritical, h⟩ := Except.bind_eq_ok_iff.mp h
  cases h
  exact
    { issuer, subject, issuedAt, expiresAt, keys := ⟨written, required, keys⟩, audience, metadata,
      metadataPolicy, constraints, authorityHints, critical, policyCritical, others := rfl }

lemma decoded_of_ofClaims {value : Json} (h : ofClaims value = .ok s) :
    ∃ claims, value = .object claims ∧ Decoded claims s := by
  unfold ofClaims at h
  split at h
  · exact ⟨_, rfl, decoded_of_ofMembers h⟩
  · cases h

lemma ofMembers_of_decoded (decoded : Decoded claims s) : ofMembers claims = .ok s := by
  obtain ⟨written, required, keys⟩ := decoded.keys
  rw [ofMembers, decoded.issuer, decoded.subject, decoded.issuedAt, decoded.expiresAt, required]
  simp only [bind, Except.bind, pure, Except.pure, keys, decoded.audience, decoded.metadata,
    decoded.metadataPolicy, decoded.constraints, decoded.authorityHints, decoded.critical,
    decoded.policyCritical, ← decoded.others]

/-! ### Writing -/

/-- What is written in the place of each registered claim. -/
def places (s : Statement) : List (String × Option Json) :=
  [("iss", some (.string s.issuer.text)), ("sub", some (.string s.subject.text)),
    ("iat", some (.int s.issuedAt)), ("exp", some (.int s.expiresAt)), ("jwks", some s.keys.toJson),
    ("aud", s.audience.map audienceToJson),
    ("metadata", if s.metadata.isEmpty then none else some (.object (s.metadata.mapValues .object))),
    ("metadata_policy",
      s.metadataPolicy.map fun policies => .object (policies.mapValues Policy.toJson)),
    ("constraints", s.constraints.map Constraints.toJson),
    ("authority_hints",
      s.authorityHints.map fun hints => .array (hints.map fun id => .string id.text)),
    ("crit", if s.critical.isEmpty then none else some (textsToJson s.critical)),
    ("policy_language_crit",
      if s.policyCritical.isEmpty then none else some (textsToJson s.policyCritical))]

lemma registeredMembers_eq (s : Statement) :
    s.registeredMembers = s.places.flatMap fun place => claimIfSome place.1 place.2 := by
  have filled : ∀ name texts, claimIfFilled name texts =
      claimIfSome name (if texts.isEmpty then none else some (textsToJson texts)) := by
    intro name texts
    unfold claimIfFilled
    split
    · rfl
    · rfl
  have metadata : (if s.metadata.isEmpty then []
      else [("metadata", Json.object (s.metadata.mapValues .object))]) =
      claimIfSome "metadata"
        (if s.metadata.isEmpty then none else some (.object (s.metadata.mapValues .object))) := by
    split
    · rfl
    · rfl
  rw [registeredMembers, filled, filled, metadata]
  simp [places, claimIfSome]

/-- Every registered claim has one place. -/
lemma places_names (s : Statement) : s.places.map Prod.fst = registeredClaims := rfl

lemma get?_claimIfSome (name other : String) (value : Option Json) :
    (claimIfSome name value).get? other = if name = other then value else none := by
  cases value with
  | none => simp [claimIfSome]
  | some v => simp [claimIfSome, Members.get?]

/-- What is written in a place is found under its name. -/
lemma get?_places {places : List (String × Option Json)} {name : String} {written : Option Json}
    (nodup : (places.map Prod.fst).Nodup) (mem : (name, written) ∈ places) :
    Members.get? (places.flatMap fun place => claimIfSome place.1 place.2) name = written := by
  have absent : ∀ rest : List (String × Option Json), name ∉ rest.map Prod.fst →
      Members.get? (rest.flatMap fun place => claimIfSome place.1 place.2) name = none := by
    intro rest fresh
    induction rest with
    | nil => rfl
    | cons place rest ih =>
        rw [List.map_cons, List.mem_cons, not_or] at fresh
        rw [List.flatMap_cons, Members.get?_append, get?_claimIfSome, if_neg (Ne.symm fresh.1),
          ih fresh.2, Option.none_or]
  induction places with
  | nil => cases mem
  | cons place rest ih =>
      obtain ⟨fresh, nodup'⟩ := List.nodup_cons.mp nodup
      rw [List.flatMap_cons, Members.get?_append, get?_claimIfSome]
      rcases List.mem_cons.mp mem with rfl | mem
      · rw [if_pos rfl, absent rest fresh, Option.or_none]
      · have listed : name ∈ rest.map Prod.fst := List.mem_map_of_mem mem
        have differs : place.1 ≠ name := fun same => fresh (same ▸ listed)
        rw [if_neg differs, ih nodup' mem, Option.none_or]

/-- None of the other claims has a place of its own. -/
def Separate (s : Statement) : Prop :=
  ∀ claim ∈ s.others, registeredClaims.contains claim.1 = false

lemma Decoded.separate (decoded : Decoded claims s) : s.Separate := by
  intro claim mem
  rw [decoded.others] at mem
  simpa using (List.mem_filter.mp mem).2

/-- Among all claims that are written, a registered one is what is written in its place, unless another
claim has its name. -/
lemma get?_toMembers_of_fresh {name : String} {written : Option Json} (mem : (name, written) ∈ s.places)
    (fresh : ∀ entry ∈ s.others, entry.1 ≠ name) : s.toMembers.get? name = written := by
  have nodup : (s.places.map Prod.fst).Nodup := by
    rw [s.places_names]
    decide
  rw [toMembers, Members.get?_foldl_insert fresh, registeredMembers_eq]
  exact get?_places nodup mem

lemma get?_toMembers (separate : s.Separate) {name : String} {written : Option Json}
    (mem : (name, written) ∈ s.places) : s.toMembers.get? name = written := by
  have registered : name ∈ registeredClaims := by
    rw [← s.places_names]
    exact List.mem_map_of_mem mem
  refine get?_toMembers_of_fresh mem ?_
  rintro entry entry_mem rfl
  have unregistered := separate entry entry_mem
  rw [List.contains_iff_mem.mpr registered] at unregistered
  cases unregistered

/-- A decoded statement is encoded with its constraints as they are written. -/
lemma Decoded.get?_constraints (decoded : Decoded claims s) :
    s.toMembers.get? "constraints" = s.constraints.map Constraints.toJson :=
  get?_toMembers decoded.separate (by simp [places])

end Federation.Statement
