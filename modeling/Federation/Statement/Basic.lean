import Federation.Constraints
import Federation.EntityType
import Federation.KeySet

/-!
# Statements

What one entity says about another in a signed statement.  When issuer and subject are the same
entity the statement is its configuration and carries its own metadata and the superiors it names;
otherwise a superior vouches for the keys of a subordinate and may restrict it.

**Questions.**  `Statement.isSelfIssued`, `Statement.hasClaim`, `Statement.metadataFor` and
`Statement.policyFor` look at what is there.

**Checks.**  `Statement.checkValidity` holds a time against the validity window, which contains its
start and not its end.  `Statement.checkRequired` asks for the claims a statement of its kind must
carry.

**Equality.**  `Statement.same` compares statements claim by claim, JSON values as JSON.
-/

namespace Federation

/-- What an issuer states about a subject. -/
structure Statement where
  issuer : EntityId
  subject : EntityId
  /-- The first second at which the statement is valid. -/
  issuedAt : Int
  /-- The first second at which the statement is no longer valid. -/
  expiresAt : Int
  /-- The keys of the subject. -/
  keys : KeySet
  /-- For whom the statement is meant. -/
  audience : Option (List String)
  /-- Metadata by entity type, sorted. -/
  metadata : Members (Members Json)
  /-- Metadata policies by entity type, sorted. -/
  metadataPolicy : Option (Members Policy)
  constraints : Option Constraints
  /-- The immediate superiors of the subject. -/
  authorityHints : Option (List EntityId)
  /-- Claims that must be understood. -/
  critical : List String
  /-- Policy operators that must be understood. -/
  policyCritical : List String
  /-- All other claims. -/
  others : Members Json

namespace Statement

/-- Whether the statement is the configuration of its issuer. -/
def isSelfIssued (s : Statement) : Bool :=
  s.issuer == s.subject

/-- Whether there is metadata of any type. -/
def hasMetadata (s : Statement) : Bool :=
  !s.metadata.isEmpty

/-- The superiors to be tried, none if there is no such claim. -/
def hints (s : Statement) : List EntityId :=
  s.authorityHints.getD []

/-- The metadata of a type. -/
def metadataFor (s : Statement) (type : EntityType) : Option (Members Json) :=
  s.metadata.get? type.name

/-- The policy for a type. -/
def policyFor (s : Statement) (type : EntityType) : Option Policy :=
  s.metadataPolicy.bind fun policies => policies.get? type.name

/-- The bound on the length of the path from the subject to the anchor. -/
def maxPathLength (s : Statement) : Option Nat :=
  s.constraints.bind Constraints.maxPathLength

/-- Whether a claim is there, registered or not.  A registered claim whose content is empty and
would not be written does not count. -/
def hasClaim (s : Statement) (name : String) : Bool :=
  match name with
  | "iss" | "sub" | "iat" | "exp" | "jwks" => true
  | "aud" => s.audience.isSome
  | "metadata" => s.hasMetadata
  | "metadata_policy" => s.metadataPolicy.isSome
  | "constraints" => s.constraints.isSome
  | "authority_hints" => s.authorityHints.isSome
  | "crit" => !s.critical.isEmpty
  | "policy_language_crit" => !s.policyCritical.isEmpty
  | other => s.others.has other

/-! ### Checks -/

/-- Asks for metadata in a configuration and for every claim that must be understood. -/
def checkRequired (s : Statement) : Except Failure Unit :=
  if s.isSelfIssued && !s.hasMetadata then
    .error (.malformed "Missing required metadata claim for self-statement")
  else
    match s.critical.find? fun claim => !s.hasClaim claim with
    | some claim => .error (.malformed s!"Missing critical {claim} claim")
    | none => .ok ()

/-- Holds a time against the validity window. -/
def checkValidity (s : Statement) (now : Int) : Except Failure Unit :=
  if now < s.issuedAt then .error (.notYetValid s.issuer s.issuedAt now)
  else if s.expiresAt ≤ now then .error (.expired s.issuer s.expiresAt now)
  else .ok ()

/-- Whether a time lies in the validity window. -/
def isValidAt (s : Statement) (now : Int) : Bool :=
  s.issuedAt ≤ now && now < s.expiresAt

/-! ### Equality -/

/-- Whether two lists of named values are equal name by name. -/
def sameNamed {α : Type} (sameValue : α → α → Bool) : Members α → Members α → Bool
  | [], [] => true
  | (a, x) :: as, (b, y) :: bs => a == b && sameValue x y && sameNamed sameValue as bs
  | _, _ => false

/-- Whether two sets of policies are equal type by type. -/
def samePolicies : Option (Members Policy) → Option (Members Policy) → Bool
  | none, none => true
  | some a, some b => sameNamed Policy.same a b
  | _, _ => false

/-- Whether two statements are equal, JSON values compared as JSON. -/
def same (a b : Statement) : Bool :=
  a.issuer == b.issuer && a.subject == b.subject && a.issuedAt == b.issuedAt &&
    a.expiresAt == b.expiresAt && a.keys.same b.keys && a.audience == b.audience &&
    sameNamed Json.sameObject a.metadata b.metadata &&
    samePolicies a.metadataPolicy b.metadataPolicy &&
    a.constraints == b.constraints && a.authorityHints == b.authorityHints &&
    a.critical == b.critical && a.policyCritical == b.policyCritical &&
    Json.sameObject a.others b.others

/-! ### Laws -/

theorem isValidAt_iff (s : Statement) (now : Int) :
    s.isValidAt now = true ↔ s.checkValidity now = .ok () := by
  unfold isValidAt checkValidity
  by_cases h : now < s.issuedAt
  · simp [h, Int.not_le.mpr h]
  · by_cases h' : s.expiresAt ≤ now
    · simp [h, h', Int.not_lt.mpr h']
    · simp [h, h', Int.not_lt.mp h, Int.not_le.mp h']

/-- A configuration has metadata, and every claim that must be understood is there. -/
theorem checkRequired_eq_ok_iff (s : Statement) : s.checkRequired = .ok () ↔
    (s.isSelfIssued = true → s.hasMetadata = true) ∧ ∀ claim ∈ s.critical, s.hasClaim claim = true := by
  have complete : (s.critical.find? fun claim => !s.hasClaim claim) = none ↔
      ∀ claim ∈ s.critical, s.hasClaim claim = true := by simp
  have described : (s.isSelfIssued && !s.hasMetadata) = false ↔
      (s.isSelfIssued = true → s.hasMetadata = true) := by
    cases s.isSelfIssued <;> simp
  rw [← complete, ← described, checkRequired]
  cases s.isSelfIssued && !s.hasMetadata with
  | true => simp
  | false =>
      cases s.critical.find? fun claim => !s.hasClaim claim with
      | none => simp
      | some claim => simp

end Statement

end Federation
