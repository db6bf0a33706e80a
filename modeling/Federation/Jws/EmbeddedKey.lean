import Federation.Json.Record
import Federation.Jws.Algorithm

/-!
# Keys in headers

The header of a signed statement may carry a key.  It is never used, because a key that comes with a
statement proves nothing, but a header with something else in its place is not a header.

**Common members.**  `EmbeddedKey.admitsCommon` looks at the members that keys of all types may have.
All of them are optional.

**Forms.**  The other members depend on the type of the key.  A key must have all members of one of
the `EmbeddedKey.forms`.
-/

namespace Federation.EmbeddedKey

open Json (Document)

/-! ### Common members -/

/-- The algorithms that only a key can be meant for, because they sign nothing. -/
def encryptionNames : List String := ["RSA1_5", "RSA-OAEP", "RSA-OAEP-256"]

/-- The members that keys of all types may have. -/
def commonNames : List String :=
  ["use", "key_ops", "alg", "kid", "x5u", "x5c", "x5t", "x5t#S256"]

/-- Whether a document says nothing: it is null or an object without members. -/
def isNothing : Document → Bool
  | .null => true
  | .object [] => true
  | _ => false

/-- Whether a member is absent, null or says what a key may be meant for. -/
def admitsAlgorithm : Option Document → Bool
  | none => true
  | some .null => true
  | some document =>
    match document.name? isNothing with
    | some name => (Algorithm.ofName? name).isSome || encryptionNames.contains name
    | none => false

/-- Whether common members are what they should be. -/
def admitsCommon (members : List (String × Document)) : Bool :=
  (["use", "kid", "x5u", "x5t", "x5t#S256"].all fun name =>
    (Document.optionalText? (members.lookup name)).isSome) &&
  (["key_ops", "x5c"].all fun name => Document.isOptionalTexts (members.lookup name)) &&
  admitsAlgorithm (members.lookup "alg")

/-! ### Forms -/

/-- The curves of elliptic keys. -/
def curves : List String := ["P-256", "P-384", "P-521", "Ed25519"]

/-- What the members of a key of some type must be. -/
structure Form where
  type : String
  /-- Whether the key lies on a curve that it names. -/
  hasCurve : Bool
  /-- The members that must be texts. -/
  texts : List String

/-- The forms of keys. -/
def forms : List Form :=
  [⟨"EC", true, ["x", "y"]⟩, ⟨"RSA", false, ["n", "e"]⟩, ⟨"oct", false, ["k"]⟩,
    ⟨"OKP", true, ["x"]⟩]

/-- The members of a form. -/
def Form.names (form : Form) : List String :=
  "kty" :: (if form.hasCurve then ["crv"] else []) ++ form.texts

/-- Whether members make a key of a form. -/
def Form.admits (form : Form) (members : List (String × Document)) : Bool :=
  match Document.known? form.names members with
  | none => false
  | some known =>
    let nameOf (member : String) := (known.lookup member).bind (Document.name? Document.isNull)
    nameOf "kty" == some form.type &&
      (!form.hasCurve || (nameOf "crv").any curves.contains) &&
      form.texts.all fun member => ((known.lookup member).bind Document.text?).isSome

/-- Whether members make a key. -/
def admitsMembers (members : List (String × Document)) : Bool :=
  match Document.known? commonNames members with
  | none => false
  | some common => admitsCommon common && forms.any fun form => form.admits members

/-- Whether a document is a key.  Everything in it must have a value, known or not. -/
def admits : Document → Bool
  | .object members =>
    (Document.value? (.object members)).isSome &&
      match Document.namedMembers? members with
      | some named => admitsMembers named
      | none => false
  | _ => false

end Federation.EmbeddedKey
