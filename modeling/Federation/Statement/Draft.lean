import Federation.Statement.Claims
import Federation.Statement.Lifetime

/-!
# Drafts of statements

A statement that is being put together.  Only issuer, subject and keys are needed from the start.

**Times.**  `Draft.finish` takes a missing time of issue from the clock and a missing end from
`Lifetime.endOf`.  The end must lie after the time of issue.

**Extension claims.**  Claims of the draft's own go through the written form of the statement, so
that none can take the place of a registered claim that is set.
-/

namespace Federation.Statement

/-- A statement that is being put together. -/
structure Draft where
  issuer : EntityId
  subject : EntityId
  /-- The keys of the subject. -/
  keys : KeySet
  issuedAt : Option Int
  expiresAt : Option Int
  audience : Option (List String)
  /-- Metadata by entity type, sorted. -/
  metadata : Members (Members Json)
  /-- Metadata policies by entity type, sorted. -/
  metadataPolicy : Option (Members Policy)
  constraints : Option Constraints
  authorityHints : Option (List EntityId)
  critical : List String
  policyCritical : List String
  /-- Claims without a place of their own. -/
  extensions : Members Json

namespace Draft

/-- A statement of one entity about another, with the keys of the latter. -/
def about (issuer subject : EntityId) (keys : KeySet) : Draft :=
  { issuer, subject, keys
    issuedAt := none
    expiresAt := none
    audience := none
    metadata := []
    metadataPolicy := none
    constraints := none
    authorityHints := none
    critical := []
    policyCritical := []
    extensions := [] }

/-- A configuration. -/
def configuration (entity : EntityId) (keys : KeySet) : Draft :=
  about entity entity keys

/-- Sets the time of issue. -/
def issuedFrom (d : Draft) (seconds : Int) : Draft :=
  { d with issuedAt := some seconds }

/-- Sets the end of the validity. -/
def expiringAt (d : Draft) (seconds : Int) : Draft :=
  { d with expiresAt := some seconds }

/-- Sets both ends of the validity. -/
def valid (d : Draft) (first last : Int) : Draft :=
  (d.issuedFrom first).expiringAt last

/-- Adds someone for whom the statement is meant. -/
def addAudience (d : Draft) (audience : String) : Draft :=
  { d with audience := some (d.audience.getD [] ++ [audience]) }

/-- Sets the metadata of a type. -/
def setMetadata (d : Draft) (type : EntityType) (metadata : Members Json) : Draft :=
  { d with metadata := d.metadata.insertSorted type.name metadata }

/-- Sets the policy for a type. -/
def setPolicy (d : Draft) (type : EntityType) (policy : Policy) : Draft :=
  { d with metadataPolicy := some ((d.metadataPolicy.getD []).insertSorted type.name policy) }

/-- Sets the constraints. -/
def setConstraints (d : Draft) (constraints : Constraints) : Draft :=
  { d with constraints := some constraints }

/-- Adds superiors. -/
def addHints (d : Draft) (hints : List EntityId) : Draft :=
  { d with authorityHints := some (d.authorityHints.getD [] ++ hints) }

/-- Adds a claim that must be understood. -/
def addCritical (d : Draft) (claim : String) : Draft :=
  { d with critical := d.critical ++ [claim] }

/-- Adds a policy operator that must be understood. -/
def addPolicyCritical (d : Draft) (operator : String) : Draft :=
  { d with policyCritical := d.policyCritical ++ [operator] }

/-- Sets an extension claim. -/
def setExtension (d : Draft) (name : String) (value : Json) : Draft :=
  { d with extensions := d.extensions.insert name value }

/-! ### Finishing -/

/-- The time of issue, by default the time of the clock. -/
def start (d : Draft) (clock : Int) : Int :=
  d.issuedAt.getD clock

/-- The end of the validity, by default a lifetime after the time of issue. -/
def finalSecond (d : Draft) (clock : Int) : Int :=
  d.expiresAt.getD (Lifetime.endOf (d.start clock))

/-- The statement without the extension claims. -/
def plain (d : Draft) (clock : Int) : Statement :=
  { issuer := d.issuer
    subject := d.subject
    issuedAt := d.start clock
    expiresAt := d.finalSecond clock
    keys := d.keys
    audience := d.audience
    metadata := d.metadata
    metadataPolicy := d.metadataPolicy
    constraints := d.constraints
    authorityHints := d.authorityHints
    critical := d.critical
    policyCritical := d.policyCritical
    others := [] }

/-- Adds extension claims to written ones, unless a name is taken. -/
def extend (claims : Members Json) (extension : String × Json) : Except Failure (Members Json) :=
  if claims.has extension.1 then
    .error (.malformed s!"extension claim {extension.1} collides with a registered claim")
  else .ok (claims.insert extension.1 extension.2)

/-- The finished statement. -/
def finish (d : Draft) (clock : Int) : Except Failure Statement := do
  if d.finalSecond clock ≤ d.start clock then
    .error (.malformed s!"exp {d.finalSecond clock} must be after iat {d.start clock}")
  else if d.extensions.isEmpty then return d.plain clock
  else ofMembers (← d.extensions.foldlM extend (d.plain clock).toMembers)

end Draft

end Federation.Statement
