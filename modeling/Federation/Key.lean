import Federation.Crypto.Base64Url
import Federation.Crypto.Ed25519
import Federation.Failure
import Federation.Json.Expectation

/-!
# Public keys

A statement carries the keys of its issuer as JSON objects.  Only Ed25519 keys can check signatures
here; keys of other types are kept so that a set is written back unchanged.

**Use.**  `Key.isEd25519` says which keys are meant for signatures, `Key.ed25519` gives the 32 bytes
of one that is usable: they must encode a point of the curve.

**Thumbprints.**  `Key.thumbprint` is the digest of the members that make up the key material, in a
fixed order and without blanks.  Two keys with one thumbprint are one key, whatever else is said
about them.

**JSON.**  `Key.read` takes the known members out and keeps the rest in order; `Key.toJson` writes
the known ones first.
-/

namespace Federation

/-- A public key. -/
structure Key where
  /-- The type of the key. -/
  type : String
  /-- The curve of an elliptic key. -/
  curve : Option String
  /-- The key material, or its first coordinate. -/
  x : Option String
  /-- The identifier. -/
  id : Option String
  /-- The algorithm the key is meant for. -/
  algorithm : Option String
  /-- What the key is meant for. -/
  purpose : Option String
  /-- All other members. -/
  others : Members Json

namespace Key

/-- Whether two keys are equal, with other members compared as JSON. -/
def same (a b : Key) : Bool :=
  a.type == b.type && a.curve == b.curve && a.x == b.x && a.id == b.id &&
    a.algorithm == b.algorithm && a.purpose == b.purpose && Json.sameObject a.others b.others

/-- Whether the key is meant for Ed25519 signatures. -/
def isEd25519 (key : Key) : Bool :=
  key.type == "OKP" && key.curve == some "Ed25519" &&
    (key.purpose.isNone || key.purpose == some "sig")

/-- An optional text in a message. -/
def optionText : Option String → String
  | none => "None"
  | some text => "Some(" ++ Text.quoted text ++ ")"

/-- The 32 bytes of an Ed25519 key. -/
def ed25519 (key : Key) : Except Failure (List UInt8) :=
  if !key.isEd25519 then
    .error (.invalidKey
      s!"not an Ed25519 signing key: kty={key.type} crv={optionText key.curve}")
  else
    match key.x with
    | none => .error (.invalidKey "OKP key has no x member")
    | some x =>
      match Base64Url.decodeKey x with
      | .error defect => .error (.invalidKey s!"invalid base64url x: {defect.keyMessage}")
      | .ok bytes =>
        if bytes.length ≠ 32 then .error (.invalidKey "Ed25519 key must be 32 bytes")
        else
          match Ed25519.Point.decode? bytes with
          | some _ => .ok bytes
          | none =>
            .error (.invalidKey
              "invalid verifying key: signature error: Cannot decompress Edwards point")

/-! ### Thumbprints -/

/-- A text member, null if it is absent. -/
def textMember (value : Option String) : Json :=
  match value with
  | some text => .string text
  | none => .null

/-- The members that make up the key material, in order, if the type is known. -/
def material? (key : Key) : Option (Members Json) :=
  let other (name : String) : Json := (key.others.get? name).getD .null
  match key.type with
  | "OKP" => some [("crv", textMember key.curve), ("kty", .string key.type), ("x", textMember key.x)]
  | "EC" =>
    some [("crv", textMember key.curve), ("kty", .string key.type), ("x", textMember key.x),
      ("y", other "y")]
  | "RSA" => some [("e", other "e"), ("kty", .string key.type), ("n", other "n")]
  | _ => none

/-- The thumbprint, if the key has all its material. -/
def thumbprint (key : Key) : Except Failure String :=
  match key.material? with
  | none => .error (.invalidKey s!"no thumbprint rule for kty {key.type}")
  | some material =>
    if material.values.any Json.isNull then
      .error (.invalidKey "key is missing a required member")
    else .ok (Base64Url.encode (Sha2.sha256 (Text.bytes (Json.compactObject material))))

/-- The key of an Ed25519 public key, with its thumbprint as identifier. -/
def ofEd25519 (bytes : List UInt8) : Key :=
  let key : Key :=
    { type := "OKP", curve := some "Ed25519", x := some (Base64Url.encode bytes), id := none,
      algorithm := some "EdDSA", purpose := some "sig", others := [] }
  { key with id := key.thumbprint.toOption }

/-! ### JSON -/

/-- A member, unless it is absent. -/
def optionalMember (name : String) : Option String → Members Json
  | none => []
  | some text => [(name, .string text)]

/-- The key as it is written. -/
def toJson (key : Key) : Json :=
  .object <|
    ("kty", .string key.type) :: optionalMember "crv" key.curve ++ optionalMember "x" key.x ++
      optionalMember "kid" key.id ++ optionalMember "alg" key.algorithm ++
      optionalMember "use" key.purpose ++ key.others

/-- A text that must be there. -/
def readText : Json → Except String String
  | .string text => .ok text
  | value => .error (value.mismatch "a string")

/-- A text that may be null. -/
def readOptionalText : Json → Except String (Option String)
  | .null => .ok none
  | value => (readText value).map some

/-- A key whose type may not have been read yet. -/
structure Draft where
  type : Option String
  rest : Key

/-- Takes one member into a key. -/
def readMember (draft : Draft) (member : String × Json) : Except String Draft := do
  let (name, value) := member
  let key := draft.rest
  match name with
  | "kty" => return { draft with type := some (← readText value) }
  | "crv" => return { draft with rest := { key with curve := ← readOptionalText value } }
  | "x" => return { draft with rest := { key with x := ← readOptionalText value } }
  | "kid" => return { draft with rest := { key with id := ← readOptionalText value } }
  | "alg" => return { draft with rest := { key with algorithm := ← readOptionalText value } }
  | "use" => return { draft with rest := { key with purpose := ← readOptionalText value } }
  | _ => return { draft with rest := { key with others := key.others ++ [(name, value)] } }

/-- The key a value denotes, or why it denotes none. -/
def read : Json → Except String Key
  | .object members => do
    let draft ← members.foldlM readMember ⟨none, ⟨"", none, none, none, none, none, []⟩⟩
    match draft.type with
    | some type => return { draft.rest with type := type }
    | none => .error "missing field \x60kty\x60"
  | value => .error (value.mismatch "struct Jwk")

end Key

end Federation
