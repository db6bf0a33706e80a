import Federation.Key

/-!
# Key sets

The keys of one issuer, in order.  `KeySet.find?` gives the first key of an identifier.

**Shared keys.**  Two sets share a key when a key of one has the thumbprint of a key of the other
(`KeySet.sharesKeyWith`).

**JSON.**  A set is written as an object with the member `keys`; it may also be given as an array
whose only item is the array of keys.
-/

namespace Federation

/-- The keys of an issuer. -/
structure KeySet where
  keys : List Key

namespace KeySet

/-- The set without keys. -/
def empty : KeySet := ⟨[]⟩

/-- Whether two sets are equal key by key. -/
def same (a b : KeySet) : Bool :=
  go a.keys b.keys
where
  go : List Key → List Key → Bool
  | [], [] => true
  | a :: as, b :: bs => a.same b && go as bs
  | _, _ => false

/-- The first key of an identifier. -/
def find? (set : KeySet) (id : String) : Option Key :=
  set.keys.find? fun key => key.id == some id

/-- The keys meant for Ed25519 signatures. -/
def ed25519Keys (set : KeySet) : List Key :=
  set.keys.filter Key.isEd25519

/-- The thumbprints of the keys that have one. -/
def thumbprints (set : KeySet) : List String :=
  set.keys.filterMap fun key => key.thumbprint.toOption

/-- Whether a key of one set is a key of the other. -/
def sharesKeyWith (set other : KeySet) : Bool :=
  set.thumbprints.any other.thumbprints.contains

/-- The set as it is written. -/
def toJson (set : KeySet) : Json :=
  .object [("keys", .array (set.keys.map Key.toJson))]

/-- The keys of an array. -/
def readKeys : Json → Except String (List Key)
  | .array items => items.mapM Key.read
  | value => .error (value.mismatch "a sequence")

/-- The set a value denotes, or why it denotes none. -/
def ofJson : Json → Except String KeySet
  | .object members =>
    match Members.get? members "keys" with
    | some keys => (readKeys keys).map KeySet.mk
    | none => .error "missing field \x60keys\x60"
  | .array [] => .error "invalid length 0, expected struct JwkSet with 1 element"
  | .array (first :: rest) => do
    let keys ← readKeys first
    if rest.isEmpty then return ⟨keys⟩
    else .error s!"invalid length {rest.length + 1}, expected fewer elements in array"
  | value => .error (value.mismatch "struct JwkSet")

/-- The set a value denotes. -/
def read (value : Json) : Except Failure KeySet :=
  (ofJson value).mapError fun why => .malformed ("invalid jwks: " ++ why)

end KeySet

end Federation
