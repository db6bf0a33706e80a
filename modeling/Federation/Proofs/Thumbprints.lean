import Federation.Proofs.Bytes
import Federation.Proofs.Json.Extent
import Federation.Proofs.Keys
import Federation.Proofs.Signatures

/-!
# Thumbprints name key material

The thumbprint of a key is the digest of the members that make up its material.  Whatever texts and values
stand in them, two keys have one thumbprint only if they have this material in common.

**Material.**  `Key.requiredMembers` names the members that count for a type, and `Key.SameMaterial` compares
them by their JSON texts.  A key has a thumbprint if it is `Key.Complete` (`Key.exists_thumbprint_iff`), and
all else about it makes no difference (`Key.thumbprint_congr`).

**Digests.**  What is digested determines the material (`Key.digested?_eq_iff`), because the text of an
object determines the texts of its values.  That the digest determines what is digested is asked of the
keys at hand (`Key.DigestsApart`).

**Keys for signatures.**  The 32 bytes of such a key are read from no other text than the one that is written
for them, so they are its material (`Key.sameMaterial_iff_of_usable`).

**Shared keys.**  `Key.IsAmong` is equality of thumbprints, and sets that share a key list one that is among
those of the other set (`KeySet.sharesKeyWith_iff_exists`).

**The theorem.**  `Key.Identified` collects what thumbprints say about given keys and `Key.identified`
proves it.
-/

namespace Federation

namespace Key

variable {key a b : Key} {names : List String} {name : String}

/-! ### Material -/

/-- The names of the members that make up a key of a type, next to the type itself. -/
def requiredMembers : String → Option (List String)
  | "OKP" => some ["crv", "x"]
  | "EC" => some ["crv", "x", "y"]
  | "RSA" => some ["e", "n"]
  | _ => none

/-- The key is of a known type and has all its material. -/
def Complete (key : Key) : Prop :=
  ∃ names, requiredMembers key.type = some names ∧
    ∀ name ∈ names, ∃ value, key.member? name = some value ∧ value.isNull = false

/-- The keys are of one type, and the members that make up a key of this type have the same JSON texts. -/
structure SameMaterial (a b : Key) : Prop where
  type_eq : a.type = b.type
  texts_eq : ∀ names, requiredMembers a.type = some names →
    ∀ name ∈ names, (a.member? name).map Json.compact = (b.member? name).map Json.compact

/-- The type stands behind the first name, which keeps the names sorted. -/
def withType : List String → List String
  | [] => ["kty"]
  | first :: rest => first :: "kty" :: rest

lemma mem_withType_iff : name ∈ withType names ↔ name = "kty" ∨ name ∈ names := by
  cases names with
  | nil => simp [withType]
  | cons first rest =>
      simp only [withType, List.mem_cons]
      exact or_left_comm

lemma member?_kty (key : Key) : key.member? "kty" = some (.string key.type) :=
  rfl

lemma requiredMembers_eq_none {type : String} (okp : type ≠ "OKP") (ec : type ≠ "EC")
    (rsa : type ≠ "RSA") : requiredMembers type = none := by
  unfold requiredMembers
  split
  · exact absurd rfl okp
  · exact absurd rfl ec
  · exact absurd rfl rsa
  · rfl

/-- What is digested are the required members and the type. -/
lemma material?_eq (key : Key) : key.material? = (requiredMembers key.type).map fun names =>
    (withType names).map fun name => (name, (key.member? name).getD .null) := by
  have text : ∀ value : Option String, textMember value = (value.map Json.string).getD .null := by
    intro value
    cases value with
    | none => rfl
    | some _ => rfl
  unfold material?
  split
  · rename_i okp
    simp [okp, requiredMembers, withType, member?, text]
  · rename_i ec
    simp [ec, requiredMembers, withType, member?, text]
  · rename_i rsa
    simp [rsa, requiredMembers, withType, member?]
  · rename_i okp ec rsa
    rw [requiredMembers_eq_none okp ec rsa]
    rfl

/-- A key is complete if no member of what is digested is null. -/
lemma complete_iff : key.Complete ↔
    ∃ material, key.material? = some material ∧ material.values.any Json.isNull = false := by
  have present : ∀ found : Option Json, (found.getD .null).isNull = false ↔
      ∃ value, found = some value ∧ value.isNull = false := by
    intro found
    cases found with
    | none => simp [Json.isNull]
    | some value => simp
  rw [material?_eq, Complete]
  cases requiredMembers key.type with
  | none => simp
  | some names =>
      simp only [Option.some.injEq, Option.map_some, exists_eq_left', Members.values,
        List.any_eq_false, List.forall_mem_map, Bool.not_eq_true, present, mem_withType_iff]
      constructor
      · rintro given name (rfl | mem)
        · exact ⟨.string key.type, rfl, rfl⟩
        · exact given name mem
      · exact fun given name mem => given name (.inr mem)

/-! ### Digests -/

/-- The bytes that are digested. -/
def digested? (key : Key) : Option (List UInt8) :=
  key.material?.map fun material => Text.bytes (Json.compactObject material)

/-- The thumbprint is the digest of the material, which has to be complete. -/
lemma thumbprint_eq_ok_iff {thumbprint : String} : key.thumbprint = .ok thumbprint ↔
    key.Complete ∧ ∃ message, key.digested? = some message ∧
      Base64Url.encode (Sha2.sha256 message) = thumbprint := by
  rw [complete_iff, Key.thumbprint, digested?]
  cases key.material? with
  | none => simp
  | some material =>
      simp only [Option.some.injEq, exists_eq_left', Option.map_some]
      cases material.values.any Json.isNull with
      | true => simp
      | false => simp

/-- **A key has a thumbprint if it is complete**, and only then. -/
theorem exists_thumbprint_iff : (∃ thumbprint, key.thumbprint = .ok thumbprint) ↔ key.Complete := by
  simp only [thumbprint_eq_ok_iff]
  constructor
  · rintro ⟨_, complete, _⟩
    exact complete
  · intro complete
    obtain ⟨material, found, _⟩ := complete_iff.mp complete
    exact ⟨_, complete, _, congrArg _ found, rfl⟩

/-- Nothing but the type and the members required for it makes a difference. -/
theorem thumbprint_congr (type : a.type = b.type)
    (required : ∀ names, requiredMembers a.type = some names →
      ∀ name ∈ names, a.member? name = b.member? name) : a.thumbprint = b.thumbprint := by
  have material : a.material? = b.material? := by
    rw [material?_eq, material?_eq, ← type]
    cases listed : requiredMembers a.type with
    | none => rfl
    | some names =>
        refine congrArg some (List.map_congr_left fun name mem => ?_)
        rcases mem_withType_iff.mp mem with rfl | mem
        · rw [member?_kty, member?_kty, type]
        · rw [required names listed name mem]
  rw [Key.thumbprint, Key.thumbprint, material, type]

lemma digested?_eq (required : requiredMembers key.type = some names) : key.digested? =
    some (Text.bytes (Json.compactObject
      ((withType names).map fun name => (name, (key.member? name).getD .null)))) := by
  rw [digested?, material?_eq, required]
  rfl

/-- Members that are there have one text if they are written alike. -/
lemma map_compact_eq_iff {found found' : Option Json} (given : ∃ value, found = some value)
    (given' : ∃ value, found' = some value) : found.map Json.compact = found'.map Json.compact ↔
      (found.getD .null).compact = (found'.getD .null).compact := by
  obtain ⟨value, rfl⟩ := given
  obtain ⟨value', rfl⟩ := given'
  simp

lemma Complete.given (complete : key.Complete) (required : requiredMembers key.type = some names)
    (mem : name ∈ names) : ∃ value, key.member? name = some value := by
  obtain ⟨names', required', given⟩ := complete
  cases required.symm.trans required'
  obtain ⟨value, found, _⟩ := given name mem
  exact ⟨value, found⟩

/-- **What is digested determines the material.** -/
theorem digested?_eq_iff (complete : a.Complete) (complete' : b.Complete) :
    a.digested? = b.digested? ↔ a.SameMaterial b := by
  have ⟨names, required, _⟩ := complete
  have ⟨names', required', _⟩ := complete'
  rw [digested?_eq required, digested?_eq required', Option.some.injEq, Text.bytes_injective.eq_iff,
    Json.compactObject_inj]
  simp only [Members.mapValues, List.map_map, Function.comp_def]
  constructor
  · intro same
    have listed : withType names = withType names' := by
      simpa [Function.comp_def] using congrArg (List.map Prod.fst) same
    rw [← listed, List.map_inj_left] at same
    have texts : ∀ name ∈ withType names, ((a.member? name).getD .null).compact =
        ((b.member? name).getD .null).compact := fun name mem => congrArg Prod.snd (same name mem)
    have type : a.type = b.type := by
      have written := texts "kty" (mem_withType_iff.mpr (.inl rfl))
      simp only [member?_kty, Option.getD_some, Json.compact] at written
      exact Json.quote_injective written
    refine ⟨type, fun names'' required'' name mem => ?_⟩
    cases required.symm.trans required''
    exact (map_compact_eq_iff (complete.given required mem)
      (complete'.given (type ▸ required) mem)).mpr (texts name (mem_withType_iff.mpr (.inr mem)))
  · intro same
    cases required'.symm.trans (same.type_eq ▸ required)
    refine List.map_congr_left fun name mem => ?_
    rcases mem_withType_iff.mp mem with rfl | mem
    · rw [member?_kty, member?_kty, same.type_eq]
    · rw [(map_compact_eq_iff (complete.given required mem) (complete'.given required' mem)).mp
        (same.texts_eq names required name mem)]

/-- Keys whose digests tell apart what is digested of them. -/
def DigestsApart (keys : Set Key) : Prop :=
  ∀ a ∈ keys, ∀ b ∈ keys, a.digested?.map Sha2.sha256 = b.digested?.map Sha2.sha256 →
    a.digested? = b.digested?

variable {keys : Set Key} {thumbprint thumbprint' : String}

/-- **Two keys have one thumbprint exactly if they have the same material.** -/
theorem thumbprint_eq_iff (apart : DigestsApart keys) (mem : a ∈ keys) (mem' : b ∈ keys)
    (has : a.thumbprint = .ok thumbprint) (has' : b.thumbprint = .ok thumbprint') :
    thumbprint = thumbprint' ↔ a.SameMaterial b := by
  obtain ⟨complete, message, digested, rfl⟩ := thumbprint_eq_ok_iff.mp has
  obtain ⟨complete', message', digested', rfl⟩ := thumbprint_eq_ok_iff.mp has'
  have told := apart a mem b mem'
  rw [digested, digested'] at told
  rw [← digested?_eq_iff complete complete', digested, digested', Base64Url.encode_injective.eq_iff,
    Option.some.injEq]
  exact ⟨fun same => Option.some.inj (told (congrArg some same)), congrArg Sha2.sha256⟩

/-! ### Keys for signatures -/

variable {bytes bytes' : List UInt8}

/-- The material of a key for signatures is what is written for its bytes. -/
lemma Usable.members (usable : key.Usable bytes) : key.member? "crv" = some (.string "Ed25519") ∧
    key.member? "x" = some (.string (Base64Url.encode bytes)) := by
  obtain ⟨x, given, decoded⟩ := usable.material
  simp [member?, usable.curve, given, Base64Url.eq_encode_of_decodeKey decoded]

lemma Usable.complete (usable : key.Usable bytes) : key.Complete := by
  obtain ⟨curve, x⟩ := usable.members
  refine ⟨["crv", "x"], by rw [usable.type]; rfl, ?_⟩
  simp [curve, x, Json.isNull]

/-- Keys for signatures have the same material exactly if they have the same bytes. -/
lemma sameMaterial_iff_of_usable (usable : a.Usable bytes) (usable' : b.Usable bytes') :
    a.SameMaterial b ↔ bytes = bytes' := by
  obtain ⟨curve, x⟩ := usable.members
  obtain ⟨curve', x'⟩ := usable'.members
  have required : requiredMembers a.type = some ["crv", "x"] := by
    rw [usable.type]
    rfl
  constructor
  · intro same
    have texts := same.texts_eq _ required "x" (by simp)
    rw [x, x', Option.map_some, Option.map_some, Option.some.injEq, Json.compact, Json.compact] at texts
    exact Base64Url.encode_injective (Json.quote_injective texts)
  · rintro rfl
    refine ⟨usable.type.trans usable'.type.symm, fun names listed => ?_⟩
    cases required.symm.trans listed
    simp [curve, curve', x, x']

/-- One of the keys has the thumbprint of this one. -/
def IsAmong (key : Key) (set : KeySet) : Prop :=
  ∃ thumbprint, key.thumbprint = .ok thumbprint ∧ thumbprint ∈ set.thumbprints

end Key

/-! ### Shared keys -/

namespace KeySet

variable {set set' other other' : KeySet}

lemma sharesKeyWith_iff : set.sharesKeyWith other = true ↔ ∃ key ∈ set.keys, key.IsAmong other := by
  simp only [sharesKeyWith, List.any_eq_true, List.contains_iff_mem]
  constructor
  · rintro ⟨thumbprint, mem, shared⟩
    obtain ⟨key, listed, known⟩ := List.mem_filterMap.mp mem
    exact ⟨key, listed, thumbprint, Except.toOption_eq_some_iff.mp known, shared⟩
  · rintro ⟨key, listed, thumbprint, known, shared⟩
    exact ⟨thumbprint, List.mem_filterMap.mpr
      ⟨key, listed, Except.toOption_eq_some_iff.mpr known⟩, shared⟩

/-- **Two sets share a key if a key of one and a key of the other have a thumbprint in common.** -/
theorem sharesKeyWith_iff_exists : set.sharesKeyWith other = true ↔
    ∃ a ∈ set.keys, ∃ b ∈ other.keys, ∃ thumbprint,
      a.thumbprint = .ok thumbprint ∧ b.thumbprint = .ok thumbprint := by
  simp only [sharesKeyWith_iff, Key.IsAmong, thumbprints, List.mem_filterMap,
    Except.toOption_eq_some_iff]
  constructor
  · rintro ⟨a, listed, thumbprint, has, b, listed', has'⟩
    exact ⟨a, listed, b, listed', thumbprint, has, has'⟩
  · rintro ⟨a, listed, b, listed', thumbprint, has, has'⟩
    exact ⟨a, listed, thumbprint, has, b, listed', has'⟩

lemma sharesKeyWith_comm : set.sharesKeyWith other = other.sharesKeyWith set := by
  refine Bool.eq_iff_iff.mpr ?_
  simp only [sharesKeyWith_iff_exists]
  constructor
  · rintro ⟨a, listed, b, listed', thumbprint, has, has'⟩
    exact ⟨b, listed', a, listed, thumbprint, has', has⟩
  · rintro ⟨b, listed', a, listed, thumbprint, has', has⟩
    exact ⟨a, listed, b, listed', thumbprint, has, has'⟩

/-- Only which keys are listed counts, not where and how often. -/
lemma sharesKeyWith_congr (same : ∀ key, key ∈ set.keys ↔ key ∈ set'.keys)
    (same' : ∀ key, key ∈ other.keys ↔ key ∈ other'.keys) :
    set.sharesKeyWith other = set'.sharesKeyWith other' := by
  refine Bool.eq_iff_iff.mpr ?_
  simp only [sharesKeyWith_iff_exists, same, same']

end KeySet

/-! ### The theorem -/

namespace Key

variable {keys : Set Key}

/-- What thumbprints say about given keys. -/
structure Identified (keys : Set Key) : Prop where
  /-- The keys that have one are those with all their material. -/
  has_iff : ∀ key ∈ keys, (∃ thumbprint, key.thumbprint = .ok thumbprint) ↔ key.Complete
  /-- They are equal for the same material, and only for it. -/
  eq_iff : ∀ a ∈ keys, ∀ b ∈ keys, ∀ thumbprint thumbprint', a.thumbprint = .ok thumbprint →
    b.thumbprint = .ok thumbprint' → (thumbprint = thumbprint' ↔ a.SameMaterial b)
  /-- Nothing else counts: keys that agree on it have one thumbprint, or none for one reason. -/
  congr : ∀ a b : Key, a.type = b.type →
    (∀ names, requiredMembers a.type = some names →
      ∀ name ∈ names, a.member? name = b.member? name) → a.thumbprint = b.thumbprint
  /-- The order in which the members are written does not count. -/
  perm : ∀ (members members' : Members Json) (key : Key), members.Distinct → members'.Perm members →
    read (.object members) = .ok key →
      ∃ key', read (.object members') = .ok key' ∧ key'.thumbprint = key.thumbprint
  /-- Keys for signatures have a thumbprint, which is equal for the same bytes, and only for them. -/
  ed25519_iff : ∀ a ∈ keys, ∀ b ∈ keys, ∀ bytes bytes', a.ed25519 = .ok bytes →
    b.ed25519 = .ok bytes' → ∃ thumbprint thumbprint', a.thumbprint = .ok thumbprint ∧
      b.thumbprint = .ok thumbprint' ∧ (thumbprint = thumbprint' ↔ bytes = bytes')
  /-- Sets share a key if two of their keys have the same material, and only then. -/
  shares_iff : ∀ set other : KeySet, (∀ key ∈ set.keys, key ∈ keys) →
    (∀ key ∈ other.keys, key ∈ keys) →
      (set.sharesKeyWith other = true ↔ ∃ a ∈ set.keys, ∃ b ∈ other.keys,
        a.Complete ∧ b.Complete ∧ a.SameMaterial b)
  /-- It is the same which of the sets comes first. -/
  shares_comm : ∀ set other : KeySet, set.sharesKeyWith other = other.sharesKeyWith set
  /-- Only which keys the sets list counts, not in which order and how often. -/
  shares_congr : ∀ set set' other other' : KeySet, (∀ key, key ∈ set.keys ↔ key ∈ set'.keys) →
    (∀ key, key ∈ other.keys ↔ key ∈ other'.keys) →
      set.sharesKeyWith other = set'.sharesKeyWith other'

/-- **Thumbprints identify key material**, if the digests tell apart what is digested. -/
theorem identified (apart : DigestsApart keys) : Identified keys := by
  refine
    { has_iff := fun key _ => exists_thumbprint_iff
      eq_iff := fun a mem b mem' thumbprint thumbprint' => thumbprint_eq_iff apart mem mem'
      congr := fun a b => thumbprint_congr
      perm := ?_
      ed25519_iff := ?_
      shares_iff := ?_
      shares_comm := fun set other => KeySet.sharesKeyWith_comm
      shares_congr := fun set set' other other' => KeySet.sharesKeyWith_congr }
  · intro members members' key distinct perm read
    obtain ⟨key', read', same⟩ := exists_read_of_perm distinct perm read
    have type : key'.type = key.type := by
      simpa [member?_kty] using same "kty"
    exact ⟨key', read', thumbprint_congr type fun _ _ name _ => same name⟩
  · intro a mem b mem' bytes bytes' found found'
    have usable := ed25519_eq_ok_iff.mp found
    have usable' := ed25519_eq_ok_iff.mp found'
    obtain ⟨thumbprint, has⟩ := exists_thumbprint_iff.mpr usable.complete
    obtain ⟨thumbprint', has'⟩ := exists_thumbprint_iff.mpr usable'.complete
    exact ⟨thumbprint, thumbprint', has, has', (thumbprint_eq_iff apart mem mem' has has').trans
      (sameMaterial_iff_of_usable usable usable')⟩
  · intro set other listed listed'
    rw [KeySet.sharesKeyWith_iff_exists]
    constructor
    · rintro ⟨a, mem, b, mem', thumbprint, has, has'⟩
      exact ⟨a, mem, b, mem', exists_thumbprint_iff.mp ⟨_, has⟩, exists_thumbprint_iff.mp ⟨_, has'⟩,
        (thumbprint_eq_iff apart (listed a mem) (listed' b mem') has has').mp rfl⟩
    · rintro ⟨a, mem, b, mem', complete, complete', same⟩
      obtain ⟨thumbprint, has⟩ := exists_thumbprint_iff.mpr complete
      obtain ⟨thumbprint', has'⟩ := exists_thumbprint_iff.mpr complete'
      have equal := (thumbprint_eq_iff apart (listed a mem) (listed' b mem') has has').mpr same
      exact ⟨a, mem, b, mem', thumbprint, has, equal ▸ has'⟩

/-- A key is named in one set and not in the other.  An elliptic key with the same coordinate is another
key. -/
theorem identified_named :
    let plain : Key :=
      ⟨"OKP", some "Ed25519", some "11qYAYKxCrfVS_7TyWQHOg7hcvPapiMlrwIaaPcHURo", none, none, none, []⟩
    let named : Key := { plain with id := some "key", algorithm := some "EdDSA", others := [("n", .null)] }
    let elliptic : Key := { plain with type := "EC", others := [("y", .string "\",\"n\":\"")] }
    DigestsApart {key | key ∈ [plain, named, elliptic]} ∧
      KeySet.sharesKeyWith ⟨[plain]⟩ ⟨[elliptic, named]⟩ = true ∧
      KeySet.sharesKeyWith ⟨[elliptic, elliptic]⟩ ⟨[plain, named]⟩ = false := by
  intro plain named elliptic
  have apart : DigestsApart {key | key ∈ [plain, named, elliptic]} := by
    have listed : ∀ a ∈ [plain, named, elliptic], ∀ b ∈ [plain, named, elliptic],
        a.digested?.map Sha2.sha256 = b.digested?.map Sha2.sha256 → a.digested? = b.digested? := by
      decide +kernel
    exact listed
  have complete : plain.Complete := ⟨["crv", "x"], rfl, by simp [plain, member?, Json.isNull]⟩
  have complete' : named.Complete := ⟨["crv", "x"], rfl, by simp [plain, named, member?, Json.isNull]⟩
  have same : plain.SameMaterial named := by
    refine ⟨rfl, fun names listed name mem => ?_⟩
    cases listed
    simp only [List.mem_cons, List.not_mem_nil, or_false] at mem
    rcases mem with rfl | rfl
    all_goals rfl
  refine ⟨apart, ?_, ?_⟩
  · refine ((identified apart).shares_iff ⟨[plain]⟩ ⟨[elliptic, named]⟩ ?_ ?_).mpr
      ⟨plain, by simp, named, by simp, complete, complete', same⟩
    all_goals simp
  · rw [Bool.eq_false_iff, ne_eq, (identified apart).shares_iff]
    · rintro ⟨a, mem, b, mem', _, _, same⟩
      have type := same.type_eq
      simp only [List.mem_cons, List.not_mem_nil, or_false, or_self] at mem mem'
      subst mem
      rcases mem' with rfl | rfl
      all_goals exact absurd type (by decide)
    all_goals simp

end Key

end Federation
