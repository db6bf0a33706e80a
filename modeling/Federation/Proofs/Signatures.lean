import Federation.Proofs.Checks
import Federation.Resolution.Sources

/-!
# What a verified statement is

A set may hold keys of any type and any number of them.  What `Jws.verify` makes of it depends only on the
keys that can check Ed25519 signatures.

**Keys.**  `Key.Usable` says what such a key is, member by member (`Key.ed25519_eq_ok_iff`).

**Signed statements.**  `Jws.Asks` names the keys of a set that a text is held against.  Of keys in a row
only the 32 bytes of those that can be used count (`Jws.verifyAny_eq`), and these are looked at as a whole:
so the order of the keys makes no difference (`Jws.verify_of_perm`), and one key that verifies is enough
(`Jws.verify_eq_ok_iff`).

**Verifiers.**  The search takes its verifier as a parameter.  A `Verifier.Faithful` verifier reads the same
claims before and after it looks at the signature.  A `Verifier.Signs` relation says who has signed what:
the verifier accepts nothing that no key of the set has signed.  The Ed25519 verifier keeps to both.
-/

namespace Federation

/-! ### Keys -/

namespace Key

variable {key : Key} {bytes : List UInt8}

/-- The key can check Ed25519 signatures, and these are its 32 bytes. -/
structure Usable (key : Key) (bytes : List UInt8) : Prop where
  type : key.type = "OKP"
  curve : key.curve = some "Ed25519"
  purpose : key.purpose = none ∨ key.purpose = some "sig"
  material : ∃ x, key.x = some x ∧ Base64Url.decodeKey x = .ok bytes
  length : bytes.length = 32
  /-- The bytes encode a point of the curve. -/
  point : (Ed25519.Point.decode? bytes).isSome = true

lemma isEd25519_iff : key.isEd25519 = true ↔ key.type = "OKP" ∧ key.curve = some "Ed25519" ∧
    (key.purpose = none ∨ key.purpose = some "sig") := by
  simp [isEd25519, and_assoc]

/-- **A key has 32 bytes for signatures if it is usable.** -/
theorem ed25519_eq_ok_iff : key.ed25519 = .ok bytes ↔ key.Usable bytes := by
  constructor
  · intro h
    unfold ed25519 at h
    split at h
    · cases h
    · rename_i meant
      rw [Bool.not_eq_true', Bool.not_eq_false, isEd25519_iff] at meant
      split at h
      · cases h
      · rename_i x given
        split at h
        · cases h
        · rename_i decoded read
          split at h
          · cases h
          · rename_i length
            split at h
            · rename_i point found
              cases h
              exact ⟨meant.1, meant.2.1, meant.2.2, ⟨x, given, read⟩, Classical.not_not.mp length,
                Option.isSome_iff_exists.mpr ⟨point, found⟩⟩
            · cases h
  · rintro ⟨type, curve, purpose, ⟨x, given, read⟩, length, point⟩
    obtain ⟨found, decoded⟩ := Option.isSome_iff_exists.mp point
    have meant := isEd25519_iff.mpr ⟨type, curve, purpose⟩
    simp [ed25519, meant, given, read, length, decoded]

lemma isEd25519_of_usable (usable : key.Usable bytes) : key.isEd25519 = true :=
  isEd25519_iff.mpr ⟨usable.type, usable.curve, usable.purpose⟩

end Key

/-! ### Signed statements -/

namespace Jws

variable {jws : Jws} {keys other : KeySet} {key : Key} {claims : Json}

/-- No key of a set verifies the signature. -/
def unverified : Failure := .badSignature "no key in the set verifies the signature"

/-- The signature is one of a key over the header and the claims as written. -/
def IsSignedBy (jws : Jws) (key : Key) : Prop :=
  ∃ bytes signature, key.ed25519 = .ok bytes ∧
    Base64Url.decodeToken jws.signaturePart = .ok signature ∧
    Ed25519.verify bytes jws.signedBytes signature = true

/-- The keys a text is held against: the first one of the identifier in its header, or all keys if the
header names none. -/
def Asks (jws : Jws) (keys : KeySet) (key : Key) : Prop :=
  match jws.header.keyId with
  | some id => keys.find? id = some key
  | none => key ∈ keys.keys

/-- The signature holds under the bytes of a key. -/
def HoldsUnder (jws : Jws) (bytes : List UInt8) : Prop :=
  ∃ signature, Base64Url.decodeToken jws.signaturePart = .ok signature ∧
    Ed25519.verify bytes jws.signedBytes signature = true

/-- The bytes of the usable keys, in order. -/
def materials (keys : List Key) : List (List UInt8) :=
  keys.filterMap fun key => key.ed25519.toOption

lemma mem_materials {keys : List Key} {bytes : List UInt8} :
    bytes ∈ materials keys ↔ ∃ key ∈ keys, key.Usable bytes := by
  simp only [materials, List.mem_filterMap, Except.toOption_eq_some_iff, Key.ed25519_eq_ok_iff]

lemma materials_of_error {failure : Failure} {rest : List Key} (h : key.ed25519 = .error failure) :
    materials (key :: rest) = materials rest := by
  simp [materials, h, Except.toOption]

lemma materials_of_ok {bytes : List UInt8} {rest : List Key} (h : key.ed25519 = .ok bytes) :
    materials (key :: rest) = bytes :: materials rest := by
  simp [materials, h, Except.toOption]

/-- What is made of a signature, given the bytes of all keys it is held against. -/
def judge (jws : Jws) (materials : List (List UInt8)) : Except Failure Json :=
  if materials.isEmpty then .error unverified
  else
    match Base64Url.decodeToken jws.signaturePart with
    | .error defect => .error (notBase64 defect)
    | .ok signature =>
      if materials.any fun bytes => Ed25519.verify bytes jws.signedBytes signature then
        jws.unverifiedClaims
      else .error unverified

/-- **Trying keys in order is judging by the bytes of all of them.** -/
theorem verifyAny_eq (jws : Jws) (keys : List Key) : jws.verifyAny keys = jws.judge (materials keys) := by
  induction keys with
  | nil => rfl
  | cons key rest ih =>
      rw [verifyAny]
      cases usable : key.ed25519 with
      | error failure => rw [materials_of_error usable, ← ih]
      | ok bytes =>
          rw [materials_of_ok usable, judge, if_neg (by simp)]
          cases decoded : Base64Url.decodeToken jws.signaturePart with
          | error defect => rfl
          | ok signature =>
              dsimp only
              rw [ih, judge, decoded, List.any_cons]
              cases holds : Ed25519.verify bytes jws.signedBytes signature with
              | true => rfl
              | false =>
                  -- if no key is left, none is found either
                  cases left : materials rest with
                  | nil => rfl
                  | cons next others => rfl

lemma judge_eq_ok_iff {materials : List (List UInt8)} : jws.judge materials = .ok claims ↔
    jws.unverifiedClaims = .ok claims ∧ ∃ bytes ∈ materials, jws.HoldsUnder bytes := by
  constructor
  · intro h
    unfold judge at h
    split at h
    · cases h
    · split at h
      · cases h
      · rename_i signature decoded
        split at h
        · rename_i found
          obtain ⟨bytes, mem, holds⟩ := List.any_eq_true.mp found
          exact ⟨h, bytes, mem, signature, decoded, holds⟩
        · cases h
  · rintro ⟨read, bytes, mem, signature, decoded, holds⟩
    have filled : ¬ materials.isEmpty = true := fun empty => by
      rw [List.isEmpty_iff.mp empty] at mem
      cases mem
    have found : (materials.any fun bytes => Ed25519.verify bytes jws.signedBytes signature) = true :=
      List.any_eq_true.mpr ⟨bytes, mem, holds⟩
    rw [judge, if_neg filled, decoded]
    exact (if_pos found).trans read

/-- One usable key that verifies the signature is enough, whatever the other keys are. -/
lemma verifyAny_eq_ok_iff {keys : List Key} : jws.verifyAny keys = .ok claims ↔
    jws.unverifiedClaims = .ok claims ∧
      ∃ key ∈ keys, ∃ bytes, key.Usable bytes ∧ jws.HoldsUnder bytes := by
  rw [verifyAny_eq, judge_eq_ok_iff]
  constructor
  · rintro ⟨read, bytes, mem, holds⟩
    obtain ⟨key, key_mem, usable⟩ := mem_materials.mp mem
    exact ⟨read, key, key_mem, bytes, usable, holds⟩
  · rintro ⟨read, key, key_mem, bytes, usable, holds⟩
    exact ⟨read, bytes, mem_materials.mpr ⟨key, key_mem, usable⟩, holds⟩

/-- The candidates are the keys that are asked for, as far as they can be used. -/
lemma mem_candidates_iff {bytes : List UInt8} (usable : key.Usable bytes) :
    key ∈ jws.candidates keys ↔ jws.Asks keys key := by
  unfold candidates Asks
  cases named : jws.header.keyId with
  | some id => exact Option.mem_toList
  | none => simp [KeySet.ed25519Keys, Key.isEd25519_of_usable usable]

/-- A text that cannot be held against any key is refused, and any other by its candidates. -/
lemma verify_eq (jws : Jws) (keys : KeySet) : jws.verify keys =
    if jws.header.algorithm ≠ .edDSA then
      .error (.badSignature s!"unsupported JWS algorithm {jws.header.algorithm.name}")
    else if (jws.candidates keys).isEmpty then
      .error (.badSignature s!"no matching key for kid {Key.optionText jws.header.keyId}")
    else jws.verifyAny (jws.candidates keys) := by
  rw [verify]
  split
  · rfl
  · cases jws.candidates keys with
    | nil => rfl
    | cons key rest => rfl

lemma verify_eq_ok_iff : jws.verify keys = .ok claims ↔
    jws.header.algorithm = .edDSA ∧ jws.unverifiedClaims = .ok claims ∧
      ∃ key bytes, jws.Asks keys key ∧ key.Usable bytes ∧ jws.HoldsUnder bytes := by
  rw [verify_eq]
  constructor
  · intro h
    split at h
    · cases h
    · rename_i algorithm
      split at h
      · cases h
      · obtain ⟨read, key, mem, bytes, usable, holds⟩ := verifyAny_eq_ok_iff.mp h
        have asked := (mem_candidates_iff usable).mp mem
        exact ⟨Classical.not_not.mp algorithm, read, key, bytes, asked, usable, holds⟩
  · rintro ⟨algorithm, read, key, bytes, asked, usable, holds⟩
    have mem := (mem_candidates_iff usable).mpr asked
    have filled : ¬ (jws.candidates keys).isEmpty = true := fun empty => by
      rw [List.isEmpty_iff.mp empty] at mem
      cases mem
    rw [if_neg (Classical.not_not.mpr algorithm), if_neg filled]
    exact verifyAny_eq_ok_iff.mpr ⟨read, key, mem, bytes, usable, holds⟩

/-- **The order of the keys makes no difference to a text that names none of them.** -/
theorem verify_of_perm (unnamed : jws.header.keyId = none) (perm : other.keys.Perm keys.keys) :
    jws.verify other = jws.verify keys := by
  have reordered : (jws.candidates other).Perm (jws.candidates keys) := by
    unfold candidates
    rw [unnamed]
    exact perm.filter _
  have bytes : (materials (jws.candidates other)).Perm (materials (jws.candidates keys)) :=
    reordered.filterMap _
  have judged : jws.judge (materials (jws.candidates other)) =
      jws.judge (materials (jws.candidates keys)) := by
    simp only [judge, bytes.isEmpty_eq, bytes.any_eq]
  rw [verify_eq, verify_eq, verifyAny_eq, verifyAny_eq, judged, reordered.isEmpty_eq]

lemma mem_of_asks (asked : jws.Asks keys key) : key ∈ keys.keys := by
  unfold Asks at asked
  split at asked
  · exact List.mem_of_find?_eq_some asked
  · exact asked

/-- **Verified claims are signed.**  They are the ones the text holds, and a key of the set has signed
them with the algorithm the header names. -/
theorem verified (h : jws.verify keys = .ok claims) :
    jws.header.algorithm = .edDSA ∧ (∃ key ∈ keys.keys, jws.IsSignedBy key) ∧
      jws.unverifiedClaims = .ok claims := by
  obtain ⟨algorithm, read, key, bytes, asked, usable, signature, decoded, holds⟩ :=
    verify_eq_ok_iff.mp h
  have material := Key.ed25519_eq_ok_iff.mpr usable
  exact ⟨algorithm, ⟨key, mem_of_asks asked, bytes, signature, material, decoded, holds⟩, read⟩

end Jws

/-! ### Verifiers -/

namespace Verifier

/-- The claims of a verified text are the ones it shows without verification. -/
def Faithful (v : Verifier) : Prop :=
  ∀ raw keys claims, v.verify raw keys = .ok claims → v.peek raw = .ok claims

/-- A text is accepted only if a key of the set has signed it. -/
def Signs (v : Verifier) (signed : String → Key → Prop) : Prop :=
  ∀ raw keys claims, v.verify raw keys = .ok claims → ∃ key ∈ keys.keys, signed raw key

theorem ed25519_faithful : ed25519.Faithful := by
  intro raw keys claims h
  obtain ⟨jws, read, verified⟩ := Except.bind_eq_ok_iff.mp h
  exact Except.bind_eq_ok_iff.mpr ⟨jws, read, (Jws.verified verified).2.2⟩

theorem ed25519_signs :
    ed25519.Signs fun raw key => ∃ jws, Jws.read raw = .ok jws ∧ jws.IsSignedBy key := by
  intro raw keys claims h
  obtain ⟨jws, read, verified⟩ := Except.bind_eq_ok_iff.mp h
  obtain ⟨_, ⟨key, mem, signed⟩, _⟩ := Jws.verified verified
  exact ⟨key, mem, jws, read, signed⟩

end Verifier

end Federation
