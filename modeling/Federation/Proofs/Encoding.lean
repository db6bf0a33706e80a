import Federation.Proofs.Constraints
import Federation.Proofs.Keys
import Federation.Proofs.Policy.Reading

/-!
# Statements that are written and read again

What was decoded can be encoded and decoded again, and nothing changes but empty lists of names in
the constraints, which are not written.  The identifiers must denote themselves when they are read
again.

**Claims by themselves.**  For each registered claim, what is written in its place is read back.
Lists by entity type are sorted, so they are put together in the order in which they are written.

**All claims.**  `Statement.Encodable` says of which statements this holds.  Registered claims come first
and the others after them (`Statement.Encodable.toMembers_eq`), and each is found again.
`Statement.reencoded_of_ofClaims` puts this together.
-/

namespace Federation

namespace Constraints

lemma namesMember_filled (claim : String) (names : Option (List EntityId)) :
    namesMember claim (filled names) = namesMember claim names := by
  unfold filled
  split
  · rfl
  · rfl

/-- Empty lists of names are not written anyway. -/
lemma toJson_refilled (c : Constraints) : c.refilled.toJson = c.toJson := by
  simp only [toJson, refilled, namesMember_filled]

end Constraints

namespace Statement

variable {claims : Members Json} {value : Json} {s : Statement}

/-! ### Claims by themselves -/

lemma int64?_of_readTime {claim : String} {seconds : Int} (h : readTime claims claim = .ok seconds) :
    (Json.int seconds).int64? = some seconds := by
  obtain ⟨written, _, h⟩ := Except.bind_eq_ok_iff.mp h
  split at h
  · rename_i seconds' number
    cases h
    unfold Json.int64? at number
    split at number
    · split at number
      · rename_i within
        cases number
        exact if_pos within
      · cases number
    · cases number
  · cases h

lemma readRequired_of_get? {claim : String} {written : Json}
    (found : claims.get? claim = some written) : readRequired claims claim = .ok written := by
  rw [readRequired, found]

lemma readTime_of_get? {claim : String} {seconds : Int}
    (found : claims.get? claim = some (.int seconds))
    (number : (Json.int seconds).int64? = some seconds) : readTime claims claim = .ok seconds := by
  rw [readTime, Except.bind_eq_ok_iff]
  refine ⟨.int seconds, readRequired_of_get? found, ?_⟩
  rw [number]
  rfl

lemma readId_of_get? {claim : String} (id : EntityId)
    (found : claims.get? claim = some (.string id.text)) (stable : id.Stable) :
    readId claims claim = .ok id := by
  rw [readId, Except.bind_eq_ok_iff]
  exact ⟨.string id.text, readRequired_of_get? found, stable⟩

lemma mapM_readText (claim : String) (texts : List String) :
    (texts.map Json.string).mapM (readText claim) = .ok texts := by
  have each : ∀ text ∈ texts, (readText claim ∘ Json.string) text = .ok (id text) :=
    fun _ _ => rfl
  rw [List.mapM_map, List.mapM_eq_ok each, List.map_id]

/-- A single audience is written without brackets, and read in either form. -/
lemma readAudience_audienceToJson (audience : Option (List String)) :
    readAudience (audience.map audienceToJson) = .ok audience := by
  match audience with
  | none => rfl
  | some [] => rfl
  | some [_] => rfl
  | some (first :: second :: rest) =>
      have texts := mapM_readText "aud" (first :: second :: rest)
      show ((List.map Json.string (first :: second :: rest)).mapM (readText "aud")).map some = _
      rw [texts]
      rfl

lemma readTexts_of_get? {claim : String} {texts : List String} (written : claims.get? claim =
    if texts.isEmpty then none else some (textsToJson texts)) : readTexts claims claim = .ok texts := by
  rw [readTexts, written]
  by_cases nothing : texts.isEmpty = true
  · rw [if_pos nothing, List.isEmpty_iff.mp nothing]
  · rw [if_neg nothing]
    exact mapM_readText claim texts

lemma readHints_of_stable {hints : Option (List EntityId)}
    (stable : ∀ id ∈ hints.getD [], id.Stable) :
    readHints (hints.map fun hints => .array (hints.map fun id => .string id.text)) = .ok hints := by
  cases hints with
  | none => rfl
  | some ids =>
      show ((ids.map fun id => Json.string id.text).mapM (Constraints.readId "authority_hints")).map
        some = _
      have read : (ids.mapM fun id => EntityId.read id.text) = .ok ids :=
        Constraints.mapM_read_of_stable stable
      rw [Constraints.mapM_readId, read]
      rfl

/-- What has been read for each entity type is sorted by type. -/
lemma sorted_of_readMetadata {written : Option Json} {metadata : Members (Members Json)}
    (h : readMetadata written = .ok metadata) : metadata.Sorted := by
  cases written with
  | none =>
      cases h
      exact List.Pairwise.nil
  | some value =>
      obtain ⟨members, _, h⟩ := Except.bind_eq_ok_iff.mp h
      refine List.foldlM_induction (P := Members.Sorted) h List.Pairwise.nil ?_
      intro entry _ before after sorted round
      unfold readMetadataEntry at round
      split at round
      · cases round
        exact sorted.insertSorted
      · cases round

lemma readMetadata_of_sorted {metadata : Members (Members Json)} (sorted : metadata.Sorted) :
    readMetadata (if metadata.isEmpty then none else some (.object (metadata.mapValues .object))) =
      .ok metadata := by
  split
  · rename_i nothing
    rw [List.isEmpty_iff.mp nothing]
    rfl
  · have sorted' : Members.Sorted ([] ++ metadata) := sorted
    exact Members.foldlM_of_sorted sorted' fun _ _ _ => rfl

/-- A policy that has been read is what its written form denotes. -/
lemma read_toJson_of_read {policy : Policy} (wellFormed : value.WellFormed)
    (h : Policy.read value = .ok policy) : Policy.read policy.toJson = .ok policy := by
  rwa [Policy.toJson_of_ofJson wellFormed (Except.mapError_eq_ok_iff.mp h)]

/-- Policies that can be written and read again, sorted by type. -/
structure Readable (policies : Members Policy) : Prop where
  sorted : policies.Sorted
  each : ∀ entry ∈ policies, Policy.read entry.2.toJson = .ok entry.2

lemma readable_of_readPolicies {written : Option Json} {policies : Members Policy}
    (wellFormed : ∀ value, written = some value → value.WellFormed)
    (h : readPolicies written = .ok (some policies)) : Readable policies := by
  unfold readPolicies at h
  split at h
  · cases h
  · cases h
  · rename_i value _
    obtain ⟨members, object, h⟩ := Except.bind_eq_ok_iff.mp h
    obtain ⟨policies', folded, h⟩ := Except.bind_eq_ok_iff.mp h
    cases h
    have members_wellFormed : ∀ entry ∈ members, entry.2.WellFormed := by
      cases value with
      | object members' =>
          cases object
          exact Json.allMembersWellFormed_iff.mp (wellFormed _ rfl).2
      | _ => cases object
    refine List.foldlM_induction (P := Readable) folded ⟨List.Pairwise.nil, fun _ mem => ?_⟩ ?_
    · cases mem
    · intro entry mem before after readable round
      obtain ⟨policy, read, round⟩ := Except.bind_eq_ok_iff.mp round
      cases round
      refine ⟨readable.sorted.insertSorted, fun other other_mem => ?_⟩
      rcases Members.mem_insertSorted other_mem with rfl | other_mem
      · exact read_toJson_of_read (members_wellFormed entry mem) read
      · exact readable.each other other_mem

lemma readPolicies_of_readable {policies : Option (Members Policy)}
    (readable : ∀ ps, policies = some ps → Readable ps) :
    readPolicies (policies.map fun policies => .object (policies.mapValues Policy.toJson)) =
      .ok policies := by
  cases policies with
  | none => rfl
  | some ps =>
      obtain ⟨sorted, each⟩ := readable ps rfl
      have folded : (ps.mapValues Policy.toJson).foldlM readPolicyEntry [] = .ok ps := by
        have sorted' : Members.Sorted ([] ++ ps) := sorted
        refine Members.foldlM_of_sorted sorted' fun entry mem policies => ?_
        rw [readPolicyEntry, each entry mem]
        rfl
      show ((ps.mapValues Policy.toJson).foldlM readPolicyEntry [] >>= fun ps => .ok (some ps)) = _
      rw [folded]
      rfl

lemma writable_of_readConstraints {written : Option Json} {constraints : Option Constraints}
    (h : readConstraints written = .ok constraints) :
    ∀ c, constraints = some c → c.Writable := by
  rintro c rfl
  unfold readConstraints at h
  split at h
  · cases h
  · cases h
  · rename_i value _
    cases read : Constraints.read value with
    | error failure =>
        rw [read] at h
        cases h
    | ok c' =>
        rw [read] at h
        cases h
        exact Constraints.writable_of_read read

lemma readConstraints_of_stable {constraints : Option Constraints}
    (writable : ∀ c, constraints = some c → c.Writable)
    (stable : ∀ c, constraints = some c → ∀ id ∈ c.listed, id.Stable) :
    readConstraints (constraints.map Constraints.toJson) =
      .ok (constraints.map Constraints.refilled) := by
  cases constraints with
  | none => rfl
  | some c =>
      have read := Constraints.read_toJson_of_stable (writable c rfl) (stable c rfl)
      show (Constraints.read c.toJson).map some = _
      rw [read]
      rfl

/-! ### All claims -/

/-- The identifiers in a statement. -/
def identifiers (s : Statement) : List EntityId :=
  s.issuer :: s.subject :: (s.hints ++ (s.constraints.map Constraints.listed).getD [])

/-- The statement with empty lists of names in its constraints as none at all. -/
def refilled (s : Statement) : Statement :=
  { s with constraints := s.constraints.map Constraints.refilled }

lemma toMembers_refilled (s : Statement) : s.refilled.toMembers = s.toMembers := by
  have constraints : s.refilled.constraints.map Constraints.toJson =
      s.constraints.map Constraints.toJson := by
    rw [refilled, Option.map_map]
    exact congrArg (fun written => s.constraints.map written) (funext Constraints.toJson_refilled)
  have registered : s.refilled.registeredMembers = s.registeredMembers := by
    rw [registeredMembers, constraints]
    rfl
  rw [toMembers, registered]
  rfl

/-- Registered claims are written in the order of their places, each at most once. -/
lemma keys_registeredMembers (s : Statement) :
    List.Sublist s.registeredMembers.keys registeredClaims := by
  have names : ∀ places : List (String × Option Json), List.Sublist
      (Members.keys (places.flatMap fun place => claimIfSome place.1 place.2))
        (places.map Prod.fst) := by
    intro places
    induction places with
    | nil => exact List.Sublist.slnil
    | cons place rest ih =>
        obtain ⟨name, written⟩ := place
        cases written with
        | none => exact ih.cons name
        | some v => exact ih.cons_cons name
  rw [registeredMembers_eq, ← s.places_names]
  exact names s.places

/-- The statement can be written and read again, as far as its identifiers denote themselves. -/
structure Encodable (s : Statement) : Prop where
  issuedAt : (Json.int s.issuedAt).int64? = some s.issuedAt
  expiresAt : (Json.int s.expiresAt).int64? = some s.expiresAt
  keys : s.keys.Plain
  metadata : s.metadata.Sorted
  metadataPolicy : ∀ policies, s.metadataPolicy = some policies → Readable policies
  constraints : ∀ c, s.constraints = some c → c.Writable
  distinct : s.others.Distinct
  separate : s.Separate

/-- What has been decoded can be encoded, if its policies can. -/
lemma Decoded.encodable (decoded : Decoded claims s) (distinct : claims.Distinct)
    (readable : ∀ policies, s.metadataPolicy = some policies → Readable policies) : s.Encodable := by
  obtain ⟨_, _, keys⟩ := decoded.keys
  exact
    { issuedAt := int64?_of_readTime decoded.issuedAt
      expiresAt := int64?_of_readTime decoded.expiresAt
      keys := KeySet.plain_of_read keys
      metadata := sorted_of_readMetadata decoded.metadata
      metadataPolicy := readable
      constraints := writable_of_readConstraints decoded.constraints
      distinct := by
        rw [decoded.others]
        exact distinct.sublist (List.filter_sublist.map _)
      separate := decoded.separate }

namespace Encodable

variable (encodable : s.Encodable)

include encodable in
/-- The other claims are written after the registered ones. -/
lemma toMembers_eq : s.toMembers = s.registeredMembers ++ s.others := by
  refine Members.foldl_insert_of_distinct ?_
  rw [Members.Distinct, Members.keys, List.map_append, List.nodup_append]
  refine ⟨s.keys_registeredMembers.nodup (by decide), encodable.distinct, ?_⟩
  rintro name mem _ mem' rfl
  obtain ⟨claim, claim_mem, rfl⟩ := List.mem_map.mp mem'
  have registered := List.contains_iff_mem.mpr (s.keys_registeredMembers.subset mem)
  rw [encodable.separate claim claim_mem] at registered
  cases registered

include encodable in
lemma otherClaims_toMembers : otherClaims s.toMembers = s.others := by
  have registered :
      s.registeredMembers.filter (fun claim => !registeredClaims.contains claim.1) = [] := by
    refine List.filter_eq_nil_iff.mpr fun claim mem => ?_
    have listed := s.keys_registeredMembers.subset (List.mem_map_of_mem mem)
    simpa using listed
  have others : s.others.filter (fun claim => !registeredClaims.contains claim.1) = s.others := by
    refine List.filter_eq_self.mpr fun claim mem => ?_
    rw [encodable.separate claim mem]
    rfl
  rw [encodable.toMembers_eq, otherClaims, List.filter_append, registered, others, List.nil_append]

include encodable in
/-- **What is written for a statement is decoded to it again.** -/
theorem decoded_refilled (stable : ∀ id ∈ s.identifiers, id.Stable) :
    Decoded s.toMembers s.refilled := by
  have found : ∀ {name written}, (name, written) ∈ s.places → s.toMembers.get? name = written :=
    get?_toMembers encodable.separate
  have hints : ∀ id ∈ s.authorityHints.getD [], id.Stable := fun id mem =>
    stable id (by simp [identifiers, Statement.hints, mem])
  have names : ∀ c, s.constraints = some c → ∀ id ∈ c.listed, id.Stable := fun c some id mem =>
    stable id (by simp [identifiers, some, mem])
  exact
    { issuer := readId_of_get? s.issuer (found (by simp [places]))
        (stable _ (by simp [identifiers]))
      subject := readId_of_get? s.subject (found (by simp [places]))
        (stable _ (by simp [identifiers]))
      issuedAt := readTime_of_get? (found (by simp [places, refilled])) encodable.issuedAt
      expiresAt := readTime_of_get? (found (by simp [places, refilled])) encodable.expiresAt
      keys := ⟨s.keys.toJson, readRequired_of_get? (found (by simp [places])),
        KeySet.read_toJson encodable.keys⟩
      audience := (congrArg readAudience (found (by simp [places]))).trans
        (readAudience_audienceToJson s.audience)
      metadata := (congrArg readMetadata (found (by simp [places, refilled]))).trans
        (readMetadata_of_sorted encodable.metadata)
      metadataPolicy := (congrArg readPolicies (found (by simp [places, refilled]))).trans
        (readPolicies_of_readable encodable.metadataPolicy)
      constraints := (congrArg readConstraints (found (by simp [places]))).trans
        (readConstraints_of_stable encodable.constraints names)
      authorityHints := (congrArg readHints (found (by simp [places, refilled]))).trans
        (readHints_of_stable hints)
      critical := readTexts_of_get? (found (by simp [places, refilled]))
      policyCritical := readTexts_of_get? (found (by simp [places, refilled]))
      others := encodable.otherClaims_toMembers.symm }

end Encodable

/-- What has been decoded from a well-formed value is decoded to itself when it is written. -/
lemma Decoded.decoded_refilled (wellFormed : (Json.object claims).WellFormed)
    (decoded : Decoded claims s) (stable : ∀ id ∈ s.identifiers, id.Stable) :
    Decoded s.toMembers s.refilled := by
  have policy : ∀ value, claims.get? "metadata_policy" = some value → value.WellFormed :=
    fun value at_name =>
      Json.allMembersWellFormed_iff.mp wellFormed.2 _ (Members.mem_of_get? at_name)
  have readable : ∀ policies, s.metadataPolicy = some policies → Readable policies :=
    fun policies some => readable_of_readPolicies policy (some ▸ decoded.metadataPolicy)
  exact (decoded.encodable wellFormed.1 readable).decoded_refilled stable

/-- **Statements are encoded and decoded without loss, but for empty lists in constraints.**  This
holds of statements whose identifiers denote themselves.  What was decoded is encoded, and decoding
that gives the same statement, with lists of names that are empty as none at all; encoding this one
gives the same claims again. -/
theorem reencoded_of_ofClaims (wellFormed : value.WellFormed) (h : ofClaims value = .ok s)
    (stable : ∀ id ∈ s.identifiers, id.Stable) :
    ofClaims s.toClaims = .ok { s with constraints := s.constraints.map Constraints.refilled } ∧
      ∀ s', ofClaims s.toClaims = .ok s' → s'.toClaims = s.toClaims := by
  obtain ⟨claims, rfl, decoded⟩ := decoded_of_ofClaims h
  have again : ofClaims s.toClaims = .ok s.refilled :=
    ofMembers_of_decoded (decoded.decoded_refilled wellFormed stable)
  refine ⟨again, fun s' h' => ?_⟩
  rw [again] at h'
  cases h'
  exact congrArg Json.object s.toMembers_refilled

/-- What an authority states about a party: an audience, a key with a member of its own, a policy with a
single value for a list and an operator that is not implemented, constraints with an empty list, and a
claim without a place. -/
def variedClaims : Json :=
  .object [("jti", .string "1"), ("iss", .string "https://authority"), ("sub", .string "https://party"),
    ("iat", .int 0), ("exp", .int 100), ("aud", .array [.string "https://anchor"]),
    ("jwks", .object [("keys", .array [.object [("use", .string "sig"), ("n", .string "a"),
      ("kty", .string "RSA"), ("alg", .null)]])]),
    ("metadata_policy", .object [("openid_relying_party", .object [("scope", .object
      [("subset_of", .string "openid"), ("intersects", .array [])])])]),
    ("constraints", .object [("naming_constraints", .object [("permitted", .array []),
      ("excluded", .array [.string "https://example"])])]),
    ("authority_hints", .array [.string "https://anchor"]), ("crit", .array [])]

/-- Claims in unusual spellings are encoded and decoded again, and only the empty list is lost. -/
theorem reencoded_varied :
    ∃ s, variedClaims.WellFormed ∧ ofClaims variedClaims = .ok s ∧
      (∀ id ∈ s.identifiers, id.Stable) ∧
      ofClaims s.toClaims =
        .ok { s with constraints := some ⟨none, none, some [⟨"https://example"⟩]⟩ } := by
  have wellFormed : variedClaims.WellFormed := by
    simp [variedClaims, Json.int, Json.WellFormed, Json.AllWellFormed, Json.AllMembersWellFormed,
      Members.Distinct]
  have evaluated : (ofClaims variedClaims).toOption.map (fun s => (s.constraints,
      decide (∀ id ∈ s.identifiers, (EntityId.read id.text).toOption = some id))) =
      some (some ⟨none, some [], some [⟨"https://example"⟩]⟩, true) := by
    decide +kernel
  obtain ⟨s, read, found⟩ := Option.map_eq_some_iff.mp evaluated
  rw [Except.toOption_eq_some_iff] at read
  rw [Prod.mk.injEq, decide_eq_true_eq] at found
  obtain ⟨constraints, rereads⟩ := found
  have stable : ∀ id ∈ s.identifiers, id.Stable := fun id mem =>
    Except.toOption_eq_some_iff.mp (rereads id mem)
  have again := (reencoded_of_ofClaims wellFormed read stable).1
  rw [constraints] at again
  exact ⟨s, wellFormed, read, stable, again⟩

end Statement

end Federation
