import Federation.Jws.EmbeddedKey

/-!
# Headers of signed statements

What a signed statement says about its signature.  A header is a record: it must name an algorithm,
and of the other members only the identifier of the key and the media type mean anything here.  The
rest must still be what it should be.
-/

namespace Federation

/-- What a header says. -/
structure Header where
  /-- The algorithm of the signature. -/
  algorithm : Algorithm
  /-- The identifier of the key, if the header names one. -/
  keyId : Option String
  /-- The media type, if the header names one. -/
  mediaType : Option String

namespace Header

open Json (Document)

/-- The members of a header, in the order of its array form. -/
def memberNames : List String :=
  ["typ", "alg", "cty", "jku", "jwk", "kid", "x5u", "x5c", "x5t", "x5t#S256"]

/-- Whether a member is absent, null or a key that is not nested too deep inside the header. -/
def admitsKey : Option Document → Bool
  | none => true
  | some .null => true
  | some document => decide (document.depth < Json.maxDepth) && EmbeddedKey.admits document

/-- Whether the members without a meaning are what they should be. -/
def admitsOthers (members : List (String × Document)) : Bool :=
  (["cty", "jku", "x5u", "x5t", "x5t#S256"].all fun name =>
    (Document.optionalText? (members.lookup name)).isSome) &&
  Document.isOptionalTexts (members.lookup "x5c") && admitsKey (members.lookup "jwk")

/-- The header that a document is. -/
def ofDocument? (document : Document) : Option Header := do
  let members ← document.record? memberNames
  let named ← (members.lookup "alg").bind (Document.name? Document.isNull)
  let algorithm ← Algorithm.ofName? named
  let keyId ← Document.optionalText? (members.lookup "kid")
  let mediaType ← Document.optionalText? (members.lookup "typ")
  if admitsOthers members then some { algorithm, keyId, mediaType } else none

end Header

end Federation
