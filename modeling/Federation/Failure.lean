import Federation.EntityId
import Federation.Json.Document
import Federation.Policy.Basic
import Federation.Policy.Violation
import Federation.Resolution.Phase

/-!
# Failures

Everything that can go wrong outside the policy engine, as one type.  A failure holds its cause;
`Failure.message` is the only place where causes become words, and `Failure.phase` says in which
phase a failure leaves a resolution.

**Text that is no JSON.**  All such texts are reported with the same words, `Failure.notJson`,
wherever they are broken.
-/

namespace Federation

/-- A chain that breaks a constraint of one of its statements. -/
inductive ConstraintViolation where
  /-- There are too many entities between a statement's subject and the anchor. -/
  | pathTooLong (entity : EntityId) (max : Nat)
  /-- An entity is under no permitted root. -/
  | notPermitted (entity : EntityId)
  /-- An entity is under an excluded root. -/
  | excluded (entity root : EntityId)
deriving DecidableEq

/-- The violation in words. -/
def ConstraintViolation.message : ConstraintViolation → String
  | .pathTooLong entity max => s!"max_path_length {max} exceeded by {entity}"
  | .notPermitted entity => s!"{entity} matches no permitted naming constraint"
  | .excluded entity root => s!"{entity} matches excluded naming constraint {root}"

/-- Why a statement could not be fetched. -/
inductive FetchFailure where
  | notFound (issuer subject : EntityId)
  | timeout
  | cancelled
  | transport (detail : String)
deriving DecidableEq

/-- The failure in words. -/
def FetchFailure.message : FetchFailure → String
  | .notFound issuer subject => s!"no statement issued by {issuer} about {subject}"
  | .timeout => "fetch timed out"
  | .cancelled => "fetch cancelled"
  | .transport detail => "transport error: " ++ detail

/-- What can go wrong. -/
inductive Failure where
  /-- Something written cannot be read. -/
  | malformed (detail : String)
  /-- A signature is not by a key it should be by. -/
  | badSignature (detail : String)
  /-- A statement is no longer valid. -/
  | expired (issuer : EntityId) (expiresAt now : Int)
  /-- A statement is not valid yet. -/
  | notYetValid (issuer : EntityId) (issuedAt now : Int)
  | constraint (violation : ConstraintViolation)
  | policy (violation : Violation)
  /-- An entity would be twice on a path. -/
  | cycle (entity : EntityId)
  /-- A path would become too long. -/
  | hopLimit (max : Nat)
  /-- A statement is not about whom, or by whom, it should be. -/
  | mismatch (detail : String)
  | invalidKey (detail : String)
  /-- The leaf has no metadata of the type asked for. -/
  | noMetadata (entityType : String)
  | noTrustPath (leaf anchor : EntityId)
  | fetch (failure : FetchFailure)
  | storage (detail : String)
  /-- A file is not in the format it should be in. -/
  | fileFormat (detail : String)
  /-- A file cannot be read or written. -/
  | inputOutput (detail : String)

namespace Failure

/-- The failure in words. -/
def message : Failure → String
  | malformed detail => "Parse error: " ++ detail
  | badSignature detail => "Signature verification failed: " ++ detail
  | expired issuer expiresAt now => s!"Statement from {issuer} expired at {expiresAt} (now {now})"
  | notYetValid issuer issuedAt now =>
    s!"Statement from {issuer} not valid before {issuedAt} (now {now})"
  | constraint violation => "Constraint violation: " ++ violation.message
  | policy violation => "Policy violation: " ++ violation.message
  | cycle entity => s!"Cycle detected: {entity} already appears in the chain"
  | hopLimit max => s!"Hop limit of {max} statements reached"
  | mismatch detail => "Statement mismatch: " ++ detail
  | invalidKey detail => "Invalid key: " ++ detail
  | noMetadata entityType => "No metadata for entity type " ++ entityType
  | noTrustPath leaf anchor => s!"No trust path from {leaf} to {anchor}"
  | fetch failure => "Fetch failed: " ++ failure.message
  | storage detail => "Storage error: " ++ detail
  | fileFormat detail => "Invalid file format: " ++ detail
  | inputOutput detail => "IO error: " ++ detail

/-- The phase a failure ends a resolution in. -/
def phase : Failure → Phase
  | constraint _ => .constraintViolation
  | hopLimit _ => .constraintViolation
  | badSignature _ => .signatureInvalid
  | invalidKey _ => .signatureInvalid
  | expired _ _ _ => .expired
  | notYetValid _ _ _ => .expired
  | cycle _ => .cycleDetected
  | policy _ => .policyConflict
  | noMetadata _ => .policyConflict
  | _ => .noPath

/-- Whether a statement could not be fetched. -/
def isFetch : Failure → Bool
  | fetch _ => true
  | _ => false

/-- The words for a text that is no JSON. -/
def notJson : String := "<json>"

end Failure

/-- The identifier a text denotes. -/
def EntityId.read (text : String) : Except Failure EntityId :=
  (EntityId.ofText text).mapError fun defect => .malformed defect.message

/-- The value of a JSON text. -/
def Json.read (text : String) : Except Failure Json :=
  match Json.parse? text with
  | some value => .ok value
  | none => .error (.malformed Failure.notJson)

/-- The policy a JSON value denotes. -/
def Policy.read (value : Json) : Except Failure Policy :=
  (Policy.ofJson value).mapError fun defect => .malformed defect.message

end Federation
