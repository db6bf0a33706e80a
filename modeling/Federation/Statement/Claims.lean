import Federation.Statement.Basic

/-!
# Statements as claims

The JSON object that stands between a statement and its signed form.

**Reading.**  `Statement.ofClaims` checks the registered claims in a fixed order, so that of several
defects always the same one is reported.  Null stands for absence in the optional claims other than
`metadata`.

**Writing.**  `Statement.toClaims` writes the registered claims in a fixed order and the others
after them.  A single audience is written without brackets, and lists that must be understood only
if they are not empty.
-/

namespace Federation.Statement

/-- The claims that have a place of their own in a statement. -/
def registeredClaims : List String :=
  ["iss", "sub", "iat", "exp", "jwks", "aud", "metadata", "metadata_policy", "constraints",
    "authority_hints", "crit", "policy_language_crit"]

/-! ### Reading -/

/-- A claim that must be there. -/
def readRequired (claims : Members Json) (claim : String) : Except Failure Json :=
  match claims.get? claim with
  | some value => .ok value
  | none => .error (.malformed s!"Missing {claim} claim")

/-- An entity identifier that must be there. -/
def readId (claims : Members Json) (claim : String) : Except Failure EntityId := do
  match ← readRequired claims claim with
  | .string text => EntityId.read text
  | _ => .error (.malformed s!"{claim} must be a string")

/-- A time that must be there. -/
def readTime (claims : Members Json) (claim : String) : Except Failure Int := do
  match (← readRequired claims claim).int64? with
  | some seconds => return seconds
  | none => .error (.malformed s!"{claim} must be an integer")

/-- A value as an object. -/
def readObject (claim : String) : Json → Except Failure (Members Json)
  | .object members => .ok members
  | _ => .error (.malformed s!"{claim} must be a JSON object")

/-- A value as a text. -/
def readText (claim : String) : Json → Except Failure String
  | .string text => .ok text
  | _ => .error (.malformed s!"{claim} entries must be strings")

/-- The audience: a text, a list of texts or nothing. -/
def readAudience : Option Json → Except Failure (Option (List String))
  | none => .ok none
  | some .null => .ok none
  | some (.string one) => .ok (some [one])
  | some (.array items) => (items.mapM (readText "aud")).map some
  | some _ => .error (.malformed "aud must be a string or array")

/-- The metadata of one type. -/
def readMetadataEntry (metadata : Members (Members Json)) (entry : String × Json) :
    Except Failure (Members (Members Json)) :=
  match entry.2 with
  | .object members => .ok (metadata.insertSorted entry.1 members)
  | _ => .error (.malformed s!"{entry.1} metadata must be a JSON object")

/-- The metadata of all types. -/
def readMetadata : Option Json → Except Failure (Members (Members Json))
  | none => .ok []
  | some value => do (← readObject "metadata" value).foldlM readMetadataEntry []

/-- The policy for one type. -/
def readPolicyEntry (policies : Members Policy) (entry : String × Json) :
    Except Failure (Members Policy) := do
  return policies.insertSorted entry.1 (← Policy.read entry.2)

/-- The policies for all types. -/
def readPolicies : Option Json → Except Failure (Option (Members Policy))
  | none => .ok none
  | some .null => .ok none
  | some value => do
    return some (← (← readObject "metadata_policy" value).foldlM readPolicyEntry [])

/-- The constraints, if there are any. -/
def readConstraints : Option Json → Except Failure (Option Constraints)
  | none => .ok none
  | some .null => .ok none
  | some value => (Constraints.read value).map some

/-- The superiors, if they are named. -/
def readHints : Option Json → Except Failure (Option (List EntityId))
  | none => .ok none
  | some .null => .ok none
  | some value => (Constraints.readIds "authority_hints" value).map some

/-- A list of texts, empty if the claim is absent. -/
def readTexts (claims : Members Json) (claim : String) : Except Failure (List String) :=
  match claims.get? claim with
  | none => .ok []
  | some .null => .ok []
  | some (.array items) => items.mapM (readText claim)
  | some _ => .error (.malformed s!"{claim} must be a JSON array")

/-- The claims without a place of their own. -/
def otherClaims (claims : Members Json) : Members Json :=
  claims.filter fun claim => !registeredClaims.contains claim.1

/-- The statement that the members of an object make. -/
def ofMembers (claims : Members Json) : Except Failure Statement := do
  let issuer ← readId claims "iss"
  let subject ← readId claims "sub"
  let issuedAt ← readTime claims "iat"
  let expiresAt ← readTime claims "exp"
  let keys ← KeySet.read (← readRequired claims "jwks")
  let audience ← readAudience (claims.get? "aud")
  let metadata ← readMetadata (claims.get? "metadata")
  let metadataPolicy ← readPolicies (claims.get? "metadata_policy")
  let constraints ← readConstraints (claims.get? "constraints")
  let authorityHints ← readHints (claims.get? "authority_hints")
  let critical ← readTexts claims "crit"
  let policyCritical ← readTexts claims "policy_language_crit"
  return { issuer, subject, issuedAt, expiresAt, keys, audience, metadata, metadataPolicy,
           constraints, authorityHints, critical, policyCritical, others := otherClaims claims }

/-- The statement that claims make. -/
def ofClaims : Json → Except Failure Statement
  | .object claims => ofMembers claims
  | _ => .error (.malformed "statement claims must be a JSON object")

/-! ### Writing -/

/-- A list of texts as a value. -/
def textsToJson (texts : List String) : Json :=
  .array (texts.map .string)

/-- The audience as a value. -/
def audienceToJson : List String → Json
  | [one] => .string one
  | many => textsToJson many

/-- A claim, unless it is absent. -/
def claimIfSome (name : String) (value : Option Json) : Members Json :=
  (value.map fun v => (name, v)).toList

/-- A list of texts as a claim, unless it is empty. -/
def claimIfFilled (name : String) (texts : List String) : Members Json :=
  if texts.isEmpty then [] else [(name, textsToJson texts)]

/-- The registered claims as they are written. -/
def registeredMembers (s : Statement) : Members Json :=
  [("iss", .string s.issuer.text), ("sub", .string s.subject.text), ("iat", .int s.issuedAt),
    ("exp", .int s.expiresAt), ("jwks", s.keys.toJson)] ++
  claimIfSome "aud" (s.audience.map audienceToJson) ++
  (if s.metadata.isEmpty then [] else [("metadata", .object (s.metadata.mapValues .object))]) ++
  claimIfSome "metadata_policy"
    (s.metadataPolicy.map fun policies => .object (policies.mapValues Policy.toJson)) ++
  claimIfSome "constraints" (s.constraints.map Constraints.toJson) ++
  claimIfSome "authority_hints"
    (s.authorityHints.map fun hints => .array (hints.map fun id => .string id.text)) ++
  claimIfFilled "crit" s.critical ++
  claimIfFilled "policy_language_crit" s.policyCritical

/-- All claims as they are written. -/
def toMembers (s : Statement) : Members Json :=
  s.others.foldl (fun members claim => members.insert claim.1 claim.2) s.registeredMembers

/-- The claims as they are written. -/
def toClaims (s : Statement) : Json :=
  .object s.toMembers

end Federation.Statement
