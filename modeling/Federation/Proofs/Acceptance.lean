import Federation.Proofs.Command.Sign

/-!
# By which keys a signature is accepted

**Claims.**  `Jws.Carries` is about the JSON object in a text, `Jws.Admitted` about the reader of the
registered claims (`Jws.unverifiedClaims_eq_ok_iff`).

**The theorem.**  `Jws.accepted_by_usable` says what is accepted by which sets, also of what a signing key
has signed (`Jws.verify_signed_eq_ok_iff`).
-/

namespace Federation

namespace Jws

variable {jws : Jws} {keys : KeySet} {key : Key} {claims : Json}

/-! ### Claims -/

/-- The text in the claims part. -/
def claimsText? (jws : Jws) : Option String :=
  (readPart jws.claimsPart).toOption.bind Text.ofBytes?

/-- The text holds the claims, which are an object. -/
def Carries (jws : Jws) (claims : Json) : Prop :=
  ∃ text members, jws.claimsText? = some text ∧ Json.parse? text = some claims ∧
    claims = .object members

/-- The reader of the registered claims gets past what the text holds. -/
def Admitted (jws : Jws) : Prop :=
  ∀ text document, jws.claimsText? = some text → Json.Document.parse? text = some document →
    admitsClaims document = true

/-- What a text that says a document is read as. -/
def claimsOf (document : Json.Document) : Except Failure Json :=
  if Json.maxDepth < document.depth || !admitsClaims document then .error notJson
  else
    match document.value? with
    | some (.object members) => .ok (.object members)
    | some _ => .error (.malformed "JWS payload must be a JSON object")
    | none => .error notJson

lemma claimsOf_eq_ok_iff {document : Json.Document} : claimsOf document = .ok claims ↔
    document.depth ≤ Json.maxDepth ∧ admitsClaims document = true ∧ document.value? = some claims ∧
      ∃ members, claims = .object members := by
  constructor
  · intro h
    unfold claimsOf at h
    split at h
    · cases h
    · rename_i allowed
      rw [Bool.or_eq_true, not_or, decide_eq_true_eq, not_lt, Bool.not_eq_true', Bool.not_eq_false]
        at allowed
      split at h
      · rename_i members value
        cases h
        exact ⟨allowed.1, allowed.2, value, members, rfl⟩
      · cases h
      · cases h
  · rintro ⟨depth, admitted, value, members, rfl⟩
    simp [claimsOf, Nat.not_lt.mpr depth, admitted, value]

lemma readClaims_eq_ok_iff {part : String} : readClaims part = .ok claims ↔
    ∃ text document, (readPart part).toOption.bind Text.ofBytes? = some text ∧
      Json.Document.parse? text = some document ∧ claimsOf document = .ok claims := by
  rw [readClaims]
  cases readPart part with
  | error failure => simp [bind, Except.bind, Except.toOption]
  | ok bytes =>
      simp only [bind, Except.bind]
      cases decoded : Text.ofBytes? bytes with
      | none => simp [Except.toOption, decoded]
      | some text =>
          cases parsed : Json.Document.parse? text with
          | none => simp [Except.toOption, decoded, parsed]
          | some document =>
              rw [Option.bind_some, parsed]
              show claimsOf document = .ok claims ↔ _
              simp [Except.toOption, decoded, parsed]

lemma parse?_eq_some_iff {text : String} {document : Json.Document}
    (parsed : Json.Document.parse? text = some document) :
    Json.parse? text = some claims ↔
      document.depth ≤ Json.maxDepth ∧ document.value? = some claims := by
  simp [Json.parse?, parsed]

/-- **The claims are read if they are an object and the registered ones are admitted.** -/
theorem unverifiedClaims_eq_ok_iff :
    jws.unverifiedClaims = .ok claims ↔ jws.Carries claims ∧ jws.Admitted := by
  rw [unverifiedClaims, readClaims_eq_ok_iff]
  constructor
  · rintro ⟨text, document, held, parsed, h⟩
    obtain ⟨depth, admitted, value, members, object⟩ := claimsOf_eq_ok_iff.mp h
    refine ⟨⟨text, members, held, (parse?_eq_some_iff parsed).mpr ⟨depth, value⟩, object⟩, ?_⟩
    intro other said other_held other_parsed
    rw [claimsText?, held] at other_held
    cases other_held
    rw [parsed] at other_parsed
    cases other_parsed
    exact admitted
  · rintro ⟨⟨text, members, held, read, object⟩, admitted⟩
    cases parsed : Json.Document.parse? text with
    | none => simp [Json.parse?, parsed] at read
    | some document =>
        obtain ⟨depth, value⟩ := (parse?_eq_some_iff parsed).mp read
        exact ⟨text, document, held, parsed,
          claimsOf_eq_ok_iff.mpr ⟨depth, admitted text document held parsed, value, members, object⟩⟩

/-! ### The theorem -/

/-- Of the keys of a set, the signer's public key verifies what the signer has signed, and no other. -/
def OnlyOwnVerifies (keys : KeySet) (signer : SigningKey) (message : List UInt8) : Prop :=
  ∀ published ∈ keys.keys, ∀ bytes, published.Usable bytes →
    (Ed25519.verify bytes message (Ed25519.sign signer.seed message) = true ↔
      bytes = signer.publicBytes)

lemma verifies_iff_of_onlyOwnVerifies {signer : SigningKey} {message : List UInt8}
    (only : OnlyOwnVerifies keys signer message) (mem : key ∈ keys.keys) :
    key.Verifies signer message ↔ key.Usable signer.publicBytes := by
  constructor
  · rintro ⟨bytes, material, genuine⟩
    have usable := Key.ed25519_eq_ok_iff.mp material
    exact (only key mem bytes usable).mp genuine ▸ usable
  · intro usable
    exact ⟨signer.publicBytes, Key.ed25519_eq_ok_iff.mpr usable,
      (only key mem _ usable).mpr rfl⟩

/-- A set without the signer's identifier accepts nothing that the signer has signed. -/
lemma verify_signed_of_find?_eq_none {signer : SigningKey} (missing : keys.find? signer.id = none) :
    (signed claims signer).verify keys ≠ .ok claims := by
  intro h
  obtain ⟨-, -, found, -, asked, -⟩ := verify_eq_ok_iff.mp h
  have asked : keys.find? signer.id = some found := asked
  rw [missing] at asked
  cases asked

/-- What has been signed is accepted if the first key of the signer's identifier is one of the
signer. -/
lemma verify_signed_eq_ok_iff {members : Members Json} {signer : SigningKey}
    (readBack : readClaims (part (.object members)) = .ok (.object members))
    (only : OnlyOwnVerifies keys signer (message (.object members) signer)) :
    (signed (.object members) signer).verify keys = .ok (.object members) ↔
      ∃ published, keys.find? signer.id = some published ∧ published.Usable signer.publicBytes := by
  cases found : keys.find? signer.id with
  | none =>
      refine iff_of_false (verify_signed_of_find?_eq_none found) ?_
      rintro ⟨published, absurd, -⟩
      cases absurd
  | some published =>
      obtain ⟨accepted, refused⟩ := verify_signed (.object members) found
      have own := verifies_iff_of_onlyOwnVerifies only (List.mem_of_find?_eq_some found)
      constructor
      · intro h
        by_cases verifies : published.Verifies signer (message (.object members) signer)
        · exact ⟨published, rfl, own.mp verifies⟩
        · rw [refused verifies] at h
          cases h
      · rintro ⟨_, ⟨⟩, usable⟩
        exact (accepted (own.mpr usable)).trans readBack

/-- **A signature is accepted through usable keys, and through them only.**  A set makes claims of a text
if and only if the header names the one algorithm there is, the text holds these claims, which are an
object, and the signature holds under a usable key that the text asks for: whatever the other keys are.
To a text that names no key the order of the keys makes no difference.  What a signer has signed is
accepted by the sets in which the first key of the signer's identifier is a usable one of the signer. -/
theorem accepted_by_usable (keys : KeySet) :
    (∀ jws : Jws, jws.Admitted → ∀ claims, jws.verify keys = .ok claims ↔
      jws.header.algorithm = .edDSA ∧ jws.Carries claims ∧
        ∃ key bytes, jws.Asks keys key ∧ key.Usable bytes ∧ jws.HoldsUnder bytes) ∧
    (∀ jws : Jws, jws.header.keyId = none → ∀ other : KeySet, other.keys.Perm keys.keys →
      jws.verify other = jws.verify keys) ∧
    ∀ (members : Members Json) (signer : SigningKey),
      readClaims (part (.object members)) = .ok (.object members) →
      OnlyOwnVerifies keys signer (message (.object members) signer) →
      ∃ raw jws, sign (.object members) signer = .ok raw ∧ read raw = .ok jws ∧
        (jws.verify keys = .ok (.object members) ↔
          ∃ published, keys.find? signer.id = some published ∧
            published.Usable signer.publicBytes) := by
  refine ⟨fun jws admitted claims => ?_, fun jws unnamed other perm => verify_of_perm unnamed perm,
    fun members signer readBack only => ?_⟩
  · rw [verify_eq_ok_iff, unverifiedClaims_eq_ok_iff, and_iff_left admitted]
  · obtain ⟨raw, made⟩ : ∃ raw, sign (.object members) signer = .ok raw := ⟨_, rfl⟩
    refine ⟨raw, signed (.object members) signer, made, ?_, verify_signed_eq_ok_iff readBack only⟩
    rw [(joined_of_sign made).1]
    exact read_joined_signed (.object members) signer

/-! ### A set of several keys -/

open Command

/-- The claims of the party that publishes its own key. -/
def ownClaims : Json := .object (partyClaims ownMaterial)

/-- Keys of another type, of somebody else and of the party. -/
def mixedKeys : KeySet where
  keys :=
    [⟨"RSA", none, none, none, none, none, []⟩,
      { partyPublished otherMaterial with id := some "other" }, partyPublished ownMaterial]

/-- What the party signs without naming its key. -/
def unnamed : Jws :=
  let headerPart := part (.object [("alg", .string "EdDSA")])
  let claimsPart := part ownClaims
  { header := ⟨.edDSA, none, none⟩, headerPart, claimsPart
    signaturePart := Base64Url.encode
      (Ed25519.sign partyKey.seed (Text.bytes (headerPart ++ "." ++ claimsPart))) }

lemma find?_mixedKeys : mixedKeys.find? partyKey.id = some (partyPublished ownMaterial) := by
  rw [id_partyKey]
  rfl

lemma usable_partyPublished : (partyPublished ownMaterial).Usable partyKey.publicBytes := by
  obtain ⟨own, verified⟩ := verified_ownMaterial
  obtain ⟨length, point⟩ := Ed25519.usable_of_verify verified
  exact Key.ed25519_eq_ok_iff.mp (Key.ed25519_of_x rfl (congrArg some own.symm) length point)

lemma onlyOwnVerifies_mixedKeys :
    OnlyOwnVerifies mixedKeys partyKey (message ownClaims partyKey) := by
  have decided : (mixedKeys.keys.all fun published => published.ed25519.toOption.all fun bytes =>
      decide (Ed25519.verify bytes (message ownClaims partyKey)
        (Ed25519.sign partyKey.seed (message ownClaims partyKey)) = true ↔
          bytes = partyKey.publicBytes)) = true := by
    rw [message_eq, id_partyKey]
    simp only [ownClaims, partyClaims, Json.compact, Json.compactMembers, Json.compactItems, headerOf,
      Text.bytes_append]
    decide +kernel
  intro published mem bytes usable
  have material := Key.ed25519_eq_ok_iff.mpr usable
  have one := List.all_eq_true.mp decided published mem
  rw [material] at one
  exact of_decide_eq_true one

/-- The party's signature is accepted in a set of several keys, by reading the text that it has
signed, and a signature without an identifier is judged alike in any order. -/
theorem accepted_by_usable_mixedKeys :
    (signed ownClaims partyKey).Admitted ∧
      (signed ownClaims partyKey).verify mixedKeys = .ok ownClaims ∧
      unnamed.verify ⟨mixedKeys.keys.reverse⟩ = unnamed.verify mixedKeys ∧
      ∃ raw jws, sign ownClaims partyKey = .ok raw ∧ read raw = .ok jws ∧
        jws.verify mixedKeys = .ok ownClaims := by
  obtain ⟨decides, reorders, signs⟩ := accepted_by_usable mixedKeys
  have readBack : readClaims (part ownClaims) = .ok ownClaims :=
    (survives_partyStatement ownMaterial).readBack
  obtain ⟨carries, admitted⟩ :
      (signed ownClaims partyKey).Carries ownClaims ∧ (signed ownClaims partyKey).Admitted :=
    unverifiedClaims_eq_ok_iff.mp readBack
  refine ⟨admitted, ?_, reorders unnamed rfl _ (List.reverse_perm _), ?_⟩
  · refine (decides _ admitted _).mpr ⟨rfl, carries, partyPublished ownMaterial, partyKey.publicBytes,
      find?_mixedKeys, usable_partyPublished, ?_⟩
    exact ⟨_, Base64Url.decodeBytes_encode false _, verified_ownMaterial.2⟩
  · obtain ⟨raw, jws, made, taken, accepted⟩ :=
      signs (partyClaims ownMaterial) partyKey readBack onlyOwnVerifies_mixedKeys
    exact ⟨raw, jws, made, taken,
      accepted.mpr ⟨partyPublished ownMaterial, find?_mixedKeys, usable_partyPublished⟩⟩

end Jws

end Federation
