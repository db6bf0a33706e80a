import Federation.Json.Encoded
import Federation.Jws.Header
import Federation.SigningKey

/-!
# Signed statements

A signed statement is three parts with dots between them: a header, the claims and a signature over
both, each in URL-safe text.

**Reading.**  `Jws.read` looks at the header only.  `Jws.unverifiedClaims` gives the claims without
looking at the signature, `Jws.verify` only after a key of a set has verified it: the key the header
names, or, when it names none, any Ed25519 key of the set.

**Claims.**  The claims must be an object.  A reader of the registered claims goes over them first;
what it cannot get past makes the text unreadable (`Jws.admitsClaims`).

**Signing.**  `Jws.sign` writes the claims in the order they are given.
-/

namespace Federation

/-- A signed statement, taken apart. -/
structure Jws where
  /-- What the header says. -/
  header : Header
  /-- The header as written. -/
  headerPart : String
  /-- The claims as written. -/
  claimsPart : String
  /-- The signature as written. -/
  signaturePart : String

namespace Jws

/-- The media type of a statement. -/
def statementType : String := "entity-statement+jwt"

/-- A part that is no URL-safe text. -/
def notBase64 (defect : Base64Url.Defect) : Failure :=
  .malformed ("malformed JWS: Base64 error: " ++ defect.tokenMessage)

/-- A part that does not hold the JSON it should. -/
def notJson : Failure :=
  .malformed ("malformed JWS: JSON error: " ++ Failure.notJson)

/-- The bytes a part holds. -/
def readPart (part : String) : Except Failure (List UInt8) :=
  match Base64Url.decodeToken part with
  | .error defect => .error (notBase64 defect)
  | .ok bytes => .ok bytes

/-- The header of a part. -/
def readHeader (part : String) : Except Failure Header := do
  match (Json.Document.ofBytes? (← readPart part)).bind Header.ofDocument? with
  | some header => return header
  | none => .error notJson

/-- Takes a signed statement apart.  Blanks around it do not count. -/
def read (raw : String) : Except Failure Jws := do
  match (Text.trim raw).splitOn "." with
  | [headerPart, claimsPart, signaturePart] =>
    let header ← readHeader headerPart
    return { header, headerPart, claimsPart, signaturePart }
  | _ => .error (.malformed "compact JWS must have three parts")

/-! ### Claims -/

/-- Whether an array or object that holds something. -/
def isFilled : Json.Document → Bool
  | .array items => !items.isEmpty
  | .object members => !members.isEmpty
  | _ => false

/-- Whether an array or object. -/
def isContainer : Json.Document → Bool
  | .array _ => true
  | .object _ => true
  | _ => false

/-- The registered claims that are looked at before all others. -/
def registeredClaims : List String := ["exp", "nbf", "sub", "iss", "aud"]

/-- Whether a registered claim can be got past: a time must not be a filled array or object, the
subject no array or object at all. -/
def admitsClaim (name : String) (document : Json.Document) : Bool :=
  if name = "exp" ∨ name = "nbf" then !isFilled document
  else if name = "sub" then !isContainer document
  else true

/-- Whether the registered claims, which are a record, can be got past. -/
def admitsClaims (document : Json.Document) : Bool :=
  match document.record? registeredClaims with
  | some claims => claims.all fun member => admitsClaim member.1 member.2
  | none => false

/-- The claims of a part. -/
def readClaims (part : String) : Except Failure Json := do
  match (Text.ofBytes? (← readPart part)).bind Json.Document.parse? with
  | none => .error notJson
  | some document =>
    if Json.maxDepth < document.depth || !admitsClaims document then .error notJson
    else
      match document.value? with
      | some (.object members) => return .object members
      | some _ => .error (.malformed "JWS payload must be a JSON object")
      | none => .error notJson

/-- The claims, whatever the signature. -/
def unverifiedClaims (jws : Jws) : Except Failure Json :=
  readClaims jws.claimsPart

/-! ### Signatures -/

/-- What the signature is over. -/
def signedBytes (jws : Jws) : List UInt8 :=
  Text.bytes (jws.headerPart ++ "." ++ jws.claimsPart)

/-- The keys of a set that may have signed. -/
def candidates (jws : Jws) (keys : KeySet) : List Key :=
  match jws.header.keyId with
  | some id => (keys.find? id).toList
  | none => keys.ed25519Keys

/-- Tries keys in order; the first that verifies the signature decides. -/
def verifyAny (jws : Jws) : List Key → Except Failure Json
  | [] => .error (.badSignature "no key in the set verifies the signature")
  | key :: rest =>
    match key.ed25519 with
    | .error _ => verifyAny jws rest
    | .ok bytes =>
      match Base64Url.decodeToken jws.signaturePart with
      | .error defect => .error (notBase64 defect)
      | .ok signature =>
        if Ed25519.verify bytes jws.signedBytes signature then jws.unverifiedClaims
        else verifyAny jws rest

/-- The claims, if a key of the set has signed them. -/
def verify (jws : Jws) (keys : KeySet) : Except Failure Json :=
  if jws.header.algorithm ≠ .edDSA then
    .error (.badSignature s!"unsupported JWS algorithm {jws.header.algorithm.name}")
  else
    match jws.candidates keys with
    | [] => .error (.badSignature s!"no matching key for kid {Key.optionText jws.header.keyId}")
    | candidates => jws.verifyAny candidates

/-- The header of a statement signed by a key. -/
def headerFor (key : SigningKey) : Json :=
  .object [("typ", .string statementType), ("alg", .string Algorithm.edDSA.name),
    ("kid", .string key.id)]

/-- A JSON value as a part. -/
def part (value : Json) : String :=
  Base64Url.encode (Text.bytes value.compact)

/-- Signs claims. -/
def sign (claims : Json) (key : SigningKey) : Except Failure String :=
  match claims with
  | .object _ =>
    let message := part (headerFor key) ++ "." ++ part claims
    .ok (message ++ "." ++ Base64Url.encode (Ed25519.sign key.seed (Text.bytes message)))
  | _ => .error (.malformed "JWS claims must be a JSON object")

end Jws

end Federation
