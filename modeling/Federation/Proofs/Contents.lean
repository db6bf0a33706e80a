import Federation.Proofs.Encoding

/-!
# What a statement says under a name

A statement is read from its claims name by name, so what it says under a name depends on nothing but the
claim of that name.

**Contents.**  `Statement.AgreesAt` compares two statements under one name.  Statements that are read from
claims with the same value under a registered name agree there (`Statement.Decoded.agreesAt`), and
statements that agree there are written alike (`Statement.get?_toMembers_of_agreesAt`).

**Readings.**  `Statement.SameReadings` holds of claims that are read alike, name by name, as far as one
looks at the constraints.  The statements made of them are then the same
(`Statement.SameReadings.ofMembers`), and setting one more registered claim changes nothing about that
(`Statement.SameReadings.insert`).
-/

namespace Federation

lemma Constraints.refilled_refilled (c : Constraints) : c.refilled.refilled = c.refilled := by
  have twice : ∀ names : Option (List EntityId), filled (filled names) = filled names := by
    intro names
    cases names with
    | none => rfl
    | some listed =>
        cases listed with
        | nil => rfl
        | cons first rest => rfl
  rw [refilled, refilled, twice, twice]

namespace Statement

variable {claims claims' : Members Json} {s t : Statement} {name : String}
  {view : Option Constraints → Option Constraints}

lemma refilled_refilled (s : Statement) : s.refilled.refilled = s.refilled := by
  have constraints : (s.constraints.map Constraints.refilled).map Constraints.refilled =
      s.constraints.map Constraints.refilled := by
    rw [Option.map_map]
    exact congrArg (fun f => s.constraints.map f) (funext Constraints.refilled_refilled)
  rw [refilled, refilled, constraints]

/-- Constraints without empty lists of names leave a statement as it is. -/
lemma refilled_eq_self (same : s.constraints = t.refilled.constraints) : s.refilled = s := by
  have once : s.constraints.map Constraints.refilled = s.constraints := by
    rw [same]
    exact congrArg Statement.constraints t.refilled_refilled
  rw [refilled, once]

/-- The statement with other claims in place of those it has. -/
def withOthers (s : Statement) (others : Members Json) : Statement :=
  { s with others }

/-! ### Contents -/

/-- Two statements say the same under a name. -/
def AgreesAt (s t : Statement) (name : String) : Prop :=
  match name with
  | "iss" => s.issuer = t.issuer
  | "sub" => s.subject = t.subject
  | "iat" => s.issuedAt = t.issuedAt
  | "exp" => s.expiresAt = t.expiresAt
  | "jwks" => s.keys = t.keys
  | "aud" => s.audience = t.audience
  | "metadata" => s.metadata = t.metadata
  | "metadata_policy" => s.metadataPolicy = t.metadataPolicy
  | "constraints" => s.constraints = t.constraints
  | "authority_hints" => s.authorityHints = t.authorityHints
  | "crit" => s.critical = t.critical
  | "policy_language_crit" => s.policyCritical = t.policyCritical
  | other => s.others.get? other = t.others.get? other

lemma agreesAt_refl (s : Statement) (name : String) : s.AgreesAt s name := by
  unfold AgreesAt
  split
  all_goals rfl

/-- Registered claims by name. -/
lemma registered_cases (registered : name ∈ registeredClaims) :
    name = "iss" ∨ name = "sub" ∨ name = "iat" ∨ name = "exp" ∨ name = "jwks" ∨ name = "aud" ∨
      name = "metadata" ∨ name = "metadata_policy" ∨ name = "constraints" ∨
      name = "authority_hints" ∨ name = "crit" ∨ name = "policy_language_crit" := by
  simpa [registeredClaims] using registered

lemma readRequired_congr (same : claims.get? name = claims'.get? name) :
    readRequired claims name = readRequired claims' name := by
  rw [readRequired, readRequired, same]

lemma readId_congr (same : claims.get? name = claims'.get? name) :
    readId claims name = readId claims' name := by
  rw [readId, readId, readRequired_congr same]

lemma readTime_congr (same : claims.get? name = claims'.get? name) :
    readTime claims name = readTime claims' name := by
  rw [readTime, readTime, readRequired_congr same]

lemma readTexts_congr (same : claims.get? name = claims'.get? name) :
    readTexts claims name = readTexts claims' name := by
  rw [readTexts, readTexts, same]

/-- **What a statement says under a registered name is read from the claim of that name.** -/
theorem Decoded.agreesAt (decoded : Decoded claims s) (decoded' : Decoded claims' t)
    (registered : name ∈ registeredClaims) (same : claims.get? name = claims'.get? name) :
    s.AgreesAt t name := by
  rcases registered_cases registered with
    rfl | rfl | rfl | rfl | rfl | rfl | rfl | rfl | rfl | rfl | rfl | rfl
  · exact Except.ok.inj (decoded.issuer.symm.trans ((readId_congr same).trans decoded'.issuer))
  · exact Except.ok.inj (decoded.subject.symm.trans ((readId_congr same).trans decoded'.subject))
  · exact Except.ok.inj (decoded.issuedAt.symm.trans ((readTime_congr same).trans decoded'.issuedAt))
  · exact Except.ok.inj (decoded.expiresAt.symm.trans ((readTime_congr same).trans decoded'.expiresAt))
  · obtain ⟨written, required, keys⟩ := decoded.keys
    obtain ⟨written', required', keys'⟩ := decoded'.keys
    rw [readRequired_congr same, required'] at required
    cases required
    exact Except.ok.inj (keys.symm.trans keys')
  · exact Except.ok.inj (decoded.audience.symm.trans (same ▸ decoded'.audience))
  · exact Except.ok.inj (decoded.metadata.symm.trans (same ▸ decoded'.metadata))
  · exact Except.ok.inj (decoded.metadataPolicy.symm.trans (same ▸ decoded'.metadataPolicy))
  · exact Except.ok.inj (decoded.constraints.symm.trans (same ▸ decoded'.constraints))
  · exact Except.ok.inj (decoded.authorityHints.symm.trans (same ▸ decoded'.authorityHints))
  · exact Except.ok.inj (decoded.critical.symm.trans ((readTexts_congr same).trans decoded'.critical))
  · exact Except.ok.inj
      (decoded.policyCritical.symm.trans ((readTexts_congr same).trans decoded'.policyCritical))

/-- **Statements that agree under a registered name are written alike there.** -/
theorem get?_toMembers_of_agreesAt (agrees : s.AgreesAt t name) (registered : name ∈ registeredClaims)
    (separate : s.Separate) (separate' : t.Separate) : s.toMembers.get? name = t.toMembers.get? name := by
  have same : ∃ written, (name, written) ∈ s.places ∧ (name, written) ∈ t.places := by
    rcases registered_cases registered with
      rfl | rfl | rfl | rfl | rfl | rfl | rfl | rfl | rfl | rfl | rfl | rfl
    all_goals
      simp only [AgreesAt] at agrees
      simp [places, agrees]
  obtain ⟨written, here, there⟩ := same
  exact (get?_toMembers separate here).trans (get?_toMembers separate' there).symm

/-! ### Readings -/

lemma otherClaims_insert (registered : name ∈ registeredClaims) (value : Json) :
    otherClaims (claims.insert name value) = otherClaims claims := by
  induction claims with
  | nil => exact List.filter_cons_of_neg (by simp [registered])
  | cons claim rest ih =>
      rw [otherClaims] at ih
      rw [Members.insert]
      split
      · rename_i here
        rw [otherClaims, otherClaims, List.filter_cons_of_neg (by simp [registered]),
          List.filter_cons_of_neg (by simp [here, registered])]
      · rw [otherClaims, otherClaims, List.filter_cons, List.filter_cons, ih, otherClaims]

/-- Claims with the same values under all registered names and the same other claims make the same
statement. -/
lemma ofMembers_congr (same : ∀ name ∈ registeredClaims, claims.get? name = claims'.get? name)
    (others : otherClaims claims = otherClaims claims') : ofMembers claims = ofMembers claims' := by
  rw [ofMembers, readId_congr (same "iss" (by decide)), readId_congr (same "sub" (by decide)),
    readTime_congr (same "iat" (by decide)), readTime_congr (same "exp" (by decide)),
    readRequired_congr (same "jwks" (by decide)), same "aud" (by decide), same "metadata" (by decide),
    same "metadata_policy" (by decide), same "constraints" (by decide),
    same "authority_hints" (by decide), readTexts_congr (same "crit" (by decide)),
    readTexts_congr (same "policy_language_crit" (by decide)), others]
  rfl

/-- The statement with a view of its constraints in their place. -/
def viewed (view : Option Constraints → Option Constraints) (s : Statement) : Statement :=
  { s with constraints := view s.constraints }

/-- The claims are read alike, as far as one looks at the constraints. -/
structure SameReadings (view : Option Constraints → Option Constraints) (claims claims' : Members Json) :
    Prop where
  issuer : readId claims "iss" = readId claims' "iss"
  subject : readId claims "sub" = readId claims' "sub"
  issuedAt : readTime claims "iat" = readTime claims' "iat"
  expiresAt : readTime claims "exp" = readTime claims' "exp"
  keys : (readRequired claims "jwks" >>= KeySet.read) = (readRequired claims' "jwks" >>= KeySet.read)
  audience : readAudience (claims.get? "aud") = readAudience (claims'.get? "aud")
  metadata : readMetadata (claims.get? "metadata") = readMetadata (claims'.get? "metadata")
  metadataPolicy :
    readPolicies (claims.get? "metadata_policy") = readPolicies (claims'.get? "metadata_policy")
  constraints : (readConstraints (claims.get? "constraints")).map view =
    (readConstraints (claims'.get? "constraints")).map view
  authorityHints :
    readHints (claims.get? "authority_hints") = readHints (claims'.get? "authority_hints")
  critical : readTexts claims "crit" = readTexts claims' "crit"
  policyCritical : readTexts claims "policy_language_crit" = readTexts claims' "policy_language_crit"
  others : otherClaims claims = otherClaims claims'

namespace SameReadings

lemma refl (claims : Members Json) : SameReadings view claims claims := by
  constructor
  all_goals rfl

/-- Claims that make statements with the same view are read alike. -/
lemma of_decoded (decoded : Decoded claims s) (decoded' : Decoded claims' t)
    (same : s.viewed view = t.viewed view) : SameReadings view claims claims' := by
  obtain ⟨issuer, subject, issuedAt, expiresAt, keys, audience, metadata, metadataPolicy, constraints,
    authorityHints, critical, policyCritical, others⟩ := Statement.mk.inj same
  obtain ⟨written, required, read⟩ := decoded.keys
  obtain ⟨written', required', read'⟩ := decoded'.keys
  exact
    { issuer := by rw [decoded.issuer, decoded'.issuer, issuer]
      subject := by rw [decoded.subject, decoded'.subject, subject]
      issuedAt := by rw [decoded.issuedAt, decoded'.issuedAt, issuedAt]
      expiresAt := by rw [decoded.expiresAt, decoded'.expiresAt, expiresAt]
      keys := by
        rw [required, required']
        exact read.trans ((congrArg Except.ok keys).trans read'.symm)
      audience := by rw [decoded.audience, decoded'.audience, audience]
      metadata := by rw [decoded.metadata, decoded'.metadata, metadata]
      metadataPolicy := by rw [decoded.metadataPolicy, decoded'.metadataPolicy, metadataPolicy]
      constraints := by
        rw [decoded.constraints, decoded'.constraints]
        exact congrArg Except.ok constraints
      authorityHints := by rw [decoded.authorityHints, decoded'.authorityHints, authorityHints]
      critical := by rw [decoded.critical, decoded'.critical, critical]
      policyCritical := by rw [decoded.policyCritical, decoded'.policyCritical, policyCritical]
      others := by rw [← decoded.others, ← decoded'.others, others] }

/-- What reads the claim of one name does so alike after any claim has been set in both. -/
lemma read_insert {β : Type} (read : Members Json → β) {claim : String}
    (congr : ∀ {a b : Members Json}, a.get? claim = b.get? claim → read a = read b)
    (same : read claims = read claims') (name : String) (value : Json) :
    read (claims.insert name value) = read (claims'.insert name value) := by
  by_cases at_name : name = claim
  · subst at_name
    exact congr ((Members.get?_insert_self _ _ _).trans (Members.get?_insert_self _ _ _).symm)
  · have elsewhere : ∀ members : Members Json, read (members.insert name value) = read members :=
      fun members => congr (Members.get?_insert_of_ne members value at_name)
    rw [elsewhere, elsewhere, same]

/-- **Claims that are read alike still are when a registered claim is set in both.** -/
theorem insert (same : SameReadings view claims claims') (registered : name ∈ registeredClaims)
    (value : Json) : SameReadings view (claims.insert name value) (claims'.insert name value) where
  issuer := read_insert (readId · "iss") readId_congr same.issuer name value
  subject := read_insert (readId · "sub") readId_congr same.subject name value
  issuedAt := read_insert (readTime · "iat") readTime_congr same.issuedAt name value
  expiresAt := read_insert (readTime · "exp") readTime_congr same.expiresAt name value
  keys := read_insert (fun claims => readRequired claims "jwks" >>= KeySet.read)
    (fun at_name => by rw [readRequired_congr at_name]) same.keys name value
  audience := read_insert (fun claims => readAudience (claims.get? "aud"))
    (fun at_name => by rw [at_name]) same.audience name value
  metadata := read_insert (fun claims => readMetadata (claims.get? "metadata"))
    (fun at_name => by rw [at_name]) same.metadata name value
  metadataPolicy := read_insert (fun claims => readPolicies (claims.get? "metadata_policy"))
    (fun at_name => by rw [at_name]) same.metadataPolicy name value
  constraints := read_insert
    (fun claims => (readConstraints (claims.get? "constraints")).map view)
    (fun at_name => by rw [at_name]) same.constraints name value
  authorityHints := read_insert (fun claims => readHints (claims.get? "authority_hints"))
    (fun at_name => by rw [at_name]) same.authorityHints name value
  critical := read_insert (readTexts · "crit") readTexts_congr same.critical name value
  policyCritical :=
    read_insert (readTexts · "policy_language_crit") readTexts_congr same.policyCritical name value
  others := by
    rw [otherClaims_insert registered, otherClaims_insert registered, same.others]

/-- **Claims that are read alike make the same statement**, as far as one looks at its constraints, or are
refused for the same reason. -/
theorem ofMembers (same : SameReadings view claims claims') :
    (Statement.ofMembers claims).map (viewed view) = (Statement.ofMembers claims').map (viewed view) := by
  simp only [Statement.ofMembers, Except.map_bind]
  rw [same.issuer]
  refine bind_congr fun issuer => ?_
  rw [same.subject]
  refine bind_congr fun subject => ?_
  rw [same.issuedAt]
  refine bind_congr fun issuedAt => ?_
  rw [same.expiresAt]
  refine bind_congr fun expiresAt => ?_
  rw [← bind_assoc, same.keys, bind_assoc]
  refine bind_congr fun written => bind_congr fun keys => ?_
  rw [same.audience]
  refine bind_congr fun audience => ?_
  rw [same.metadata]
  refine bind_congr fun metadata => ?_
  rw [same.metadataPolicy]
  refine bind_congr fun metadataPolicy => ?_
  refine Except.bind_congr_of_map same.constraints fun constraints constraints' alike => ?_
  rw [same.authorityHints]
  refine bind_congr fun authorityHints => ?_
  rw [same.critical]
  refine bind_congr fun critical => ?_
  rw [same.policyCritical]
  refine bind_congr fun policyCritical => ?_
  simp only [Except.map, pure, Except.pure, viewed, alike, same.others]

/-- Claims that are read alike in all they say make the same statement or are refused alike. -/
lemma ofMembers_eq (same : SameReadings id claims claims') :
    Statement.ofMembers claims = Statement.ofMembers claims' := by
  have whole : ∀ made : Except Failure Statement, made.map (viewed id) = made := by
    intro made
    cases made with
    | error failure => rfl
    | ok s => rfl
  rw [← whole (Statement.ofMembers claims), same.ofMembers, whole]

end SameReadings

end Statement

end Federation
