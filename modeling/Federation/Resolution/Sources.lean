import Federation.Jws
import Federation.Statement.Claims

/-!
# Where statements come from

A resolution asks others for two things: raw statements and the verdict on their signatures.

**Fetching.**  A `Fetcher` answers a request with a raw statement or a failure and may change its
state each time, so the same request need not have the same answer twice.  `Fetcher.ofFunction` is
one that always gives the same answers.

**Verifying.**  A `Verifier` gives the claims of a raw statement, either after a key of a set has
verified it or without looking at the signature.  The latter is needed to learn the keys of a
configuration before they can verify it.

**Reading.**  `Verifier.readConfiguration` accepts a configuration that its own keys verify,
`Verifier.readIssued` a statement that given keys verify.  Both insist on the issuer and the subject
that were asked for.
-/

namespace Federation

/-- Answers requests for the raw statement of an issuer about a subject. -/
abbrev Fetcher (σ : Type) : Type :=
  EntityId → EntityId → σ → Except FetchFailure String × σ

/-- A fetcher without state. -/
def Fetcher.ofFunction (answer : EntityId → EntityId → Except FetchFailure String) :
    Fetcher Unit :=
  fun issuer subject state => (answer issuer subject, state)

/-- Gives the claims of raw statements. -/
structure Verifier where
  /-- The claims, if a key of the set verifies the statement. -/
  verify : String → KeySet → Except Failure Json
  /-- The claims, whatever the signature. -/
  peek : String → Except Failure Json

namespace Verifier

/-- The verifier of Ed25519 signatures. -/
def ed25519 : Verifier where
  verify raw keys := do (← Jws.read raw).verify keys
  peek raw := do (← Jws.read raw).unverifiedClaims

/-- Insists on issuer and subject of a statement. -/
def checkNames (s : Statement) (issuer subject : EntityId) : Except Failure Unit :=
  if s.issuer = issuer ∧ s.subject = subject then .ok ()
  else
    .error (.mismatch (s!"expected statement by {issuer} about {subject}, " ++
      s!"got one by {s.issuer} about {s.subject}"))

/-- The statement in a raw text that given keys verify. -/
def readIssued (v : Verifier) (issuer subject : EntityId) (keys : KeySet) (raw : String) :
    Except Failure Statement := do
  let s ← Statement.ofClaims (← v.verify raw keys)
  checkNames s issuer subject
  return s

/-- The configuration in a raw text that its own keys verify. -/
def readConfiguration (v : Verifier) (entity : EntityId) (raw : String) :
    Except Failure Statement := do
  let unverified ← Statement.ofClaims (← v.peek raw)
  v.readIssued entity entity unverified.keys raw

end Verifier

end Federation
