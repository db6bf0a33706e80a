import Federation.KeySet

/-!
# Signing keys

The secret half of an Ed25519 key, held as its seed.  The public half, its identifier and the set
that publishes it follow from the seed.
-/

namespace Federation

/-- A secret key. -/
structure SigningKey where
  /-- The 32 bytes the key is made of. -/
  seed : List UInt8

namespace SigningKey

/-- The key a text denotes.  Blanks around it do not count. -/
def read (text : String) : Except Failure SigningKey :=
  match Base64Url.decodeKey (Text.trim text) with
  | .error defect => .error (.invalidKey s!"invalid base64url key: {defect.keyMessage}")
  | .ok seed =>
    if seed.length = 32 then .ok ⟨seed⟩
    else .error (.invalidKey "signing key must be 32 bytes")

/-- The seed as text. -/
def text (key : SigningKey) : String := Base64Url.encode key.seed

/-- The bytes of the public half. -/
def publicBytes (key : SigningKey) : List UInt8 := Ed25519.publicKey key.seed

/-- The public half. -/
def publicKey (key : SigningKey) : Key := Key.ofEd25519 key.publicBytes

/-- The identifier of the public half. -/
def id (key : SigningKey) : String := key.publicKey.id.getD ""

/-- The set that publishes the public half. -/
def publicKeys (key : SigningKey) : KeySet := ⟨[key.publicKey]⟩

/-- What a message may show of the key. -/
def description (key : SigningKey) : String :=
  "FederationKey \x7b kid: " ++ Text.quoted key.id ++ ", .. \x7d"

end SigningKey

end Federation
