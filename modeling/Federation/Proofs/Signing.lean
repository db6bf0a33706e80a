import Federation.Jws
import Federation.Proofs.Bytes
import Federation.Proofs.Checks
import Federation.Proofs.Json.Printed
import Federation.Proofs.Signatures
import Federation.Proofs.Text

/-!
# Signed statements are taken apart again

What `Jws.sign` puts together is found in it by the reader, and the keys of a set decide about the
signature by their material, not by their identifiers.

**Parts.**  Symbols are neither dots nor blanks, so a text of three parts is cut where they were joined
(`Text.splitOn_joined`) and nothing is taken off its ends.

**Header.**  The identifier of a signing key consists of symbols (`SigningKey.id_eq`).  The header is in
ASCII for that, and its strings are decoded to themselves.

**Claims.**  Claims without floats are read back from their part (`Jws.readClaims_part`), if the reader
of the registered claims gets past them.

**Keys.**  `Jws.verify_signed` says what a set makes of a signature: only the first key of the
identifier counts, and it must verify what was signed (`Key.Verifies`).  The public half of the signing
key does that under every identifier (`Key.verifies_of_own`).
-/

namespace Federation

/-! ### Parts -/

namespace Text

/-- What is decided character by character holds of all characters of a text. -/
lemma forall_mem_of_all {s : String} {p : Char → Prop} [DecidablePred p]
    (all : (s.toList.all fun c => decide (p c)) = true) : ∀ c ∈ s.toList, p c :=
  fun c mem => of_decide_eq_true (List.all_eq_true.mp all c mem)

/-- A text is cut where parts without dots have been joined. -/
lemma splitOn_joined {a b c : String} (dotless : ∀ part ∈ [a, b, c], '.' ∉ part.toList) :
    (a ++ "." ++ b ++ "." ++ c).splitOn "." = [a, b, c] := by
  have joined : (a ++ "." ++ b ++ "." ++ c).toList =
      a.toList ++ '.' :: (b.toList ++ '.' :: c.toList) := by
    simp
  have dot : "." = String.singleton '.' := rfl
  rw [dot] at joined ⊢
  rw [splitOn_singleton, joined, List.splitOn_append_cons_self_of_not_mem (dotless a (by simp)),
    List.splitOn_append_cons_self_of_not_mem (dotless b (by simp)),
    List.splitOn_eq_singleton (dotless c (by simp))]
  simp

end Text

namespace Base64Url

lemma symbol_plain : ∀ n < 64, symbol n ≠ '.' ∧ Text.isBlank (symbol n) = false ∧
    ' ' ≤ symbol n ∧ (symbol n).toNat < 128 ∧ Json.escape (symbol n) = [symbol n] := by
  decide

end Base64Url

/-! ### Header -/

namespace Json

open Document

/-- The characters of a string in ASCII are decoded to themselves. -/
lemma Literal.decoded_ofText {s : String} (plain : ∀ c ∈ s.toList, ' ' ≤ c ∧ c.toNat < 128) :
    (ofText s).decoded [] = ofText s := by
  have written : ofText s = s.toList.map .character := by
    refine List.map_congr_left fun c mem => ?_
    rw [Piece.ofChar, if_neg (by simp [(plain c mem).1])]
  have gathered : ∀ (cs : List Char) (bytes : List UInt8), decoded bytes (cs.map .character) =
      piecesOfBytes (bytes.reverse ++ cs.map fun c => UInt8.ofNat c.toNat) := by
    intro cs
    induction cs with
    | nil => simp [decoded]
    | cons c cs ih =>
        intro bytes
        rw [List.map_cons, decoded, ih]
        simp
  have bytes := Text.bytes_ofList fun c mem => (plain c mem).2
  rw [String.ofList_toList] at bytes
  rw [written, gathered, List.reverse_nil, List.nil_append, ← bytes, piecesOfBytes,
    Text.ofBytes?_bytes]

lemma Literal.decoded_ofText_of_all {s : String}
    (all : (s.toList.all fun c => decide (' ' ≤ c ∧ c.toNat < 128)) = true) :
    (ofText s).decoded [] = ofText s :=
  decoded_ofText (Text.forall_mem_of_all all)

/-- A text in ASCII whose strings are decoded to themselves is read from its bytes. -/
lemma Document.ofBytes?_compact {value : Json} {document : Document}
    (ascii : ∀ c ∈ value.compact.toList, c.toNat < 128) (written : value.document? = some document)
    (decoded : document.tokens.map Token.decoded = document.tokens) :
    Document.ofBytes? (Text.bytes value.compact) = some document := by
  have characters : (Text.bytes value.compact).map (fun byte => Char.ofNat byte.toNat) =
      value.compact.toList := by
    have bytes := Text.bytes_ofList ascii
    rw [String.ofList_toList] at bytes
    rw [bytes, List.map_map]
    refine Eq.trans (List.map_congr_left fun c mem => ?_) (List.map_id _)
    have small : c.toNat < 256 := (ascii c mem).trans (by decide)
    simp [Nat.mod_eq_of_lt small]
  rw [Document.ofBytes?, characters, tokens?_toList_compact written]
  exact (congrArg ofTokens? decoded).trans (ofTokens?_tokens document)

end Json

namespace SigningKey

/-- The identifier is the thumbprint of the public half. -/
lemma id_eq (key : SigningKey) : ∃ digest, key.id = Base64Url.encode digest := by
  refine ⟨Sha2.sha256 (Text.bytes (Json.compactObject [("crv", .string "Ed25519"),
    ("kty", .string "OKP"), ("x", .string (Base64Url.encode key.publicBytes))])), ?_⟩
  rfl

lemma symbol_of_mem_id {key : SigningKey} {c : Char} (mem : c ∈ key.id.toList) :
    ∃ n < 64, Base64Url.symbol n = c := by
  obtain ⟨digest, id⟩ := key.id_eq
  rw [id] at mem
  exact Base64Url.mem_encode mem

/-- A signing key is read from its own text. -/
lemma read_text {key : SigningKey} (length : key.seed.length = 32) : read key.text = .ok key := by
  have trimmed : Text.trim key.text = key.text := by
    refine Text.trim_eq_self fun c mem => ?_
    obtain ⟨n, small, rfl⟩ := Base64Url.mem_encode mem
    exact (Base64Url.symbol_plain n small).2.1
  have decoded : Base64Url.decodeKey key.text = .ok key.seed := Base64Url.decodeBytes_encode true _
  rw [read, trimmed, decoded]
  exact if_pos length

end SigningKey

namespace Jws

variable {key : SigningKey} {claims : Json} {raw : String}

/-- The header as a document. -/
def headerDocument (id : String) : Json.Document :=
  .object
    [(.ofText "typ", .string (.ofText statementType)),
      (.ofText "alg", .string (.ofText Algorithm.edDSA.name)), (.ofText "kid", .string (.ofText id))]

/-- A header names a key, and the only algorithm there is. -/
lemma ofDocument?_headerDocument (id : String) :
    Header.ofDocument? (headerDocument id) = some ⟨.edDSA, some id, some statementType⟩ := by
  have members : (headerDocument id).record? Header.memberNames =
      some [("typ", .string (.ofText statementType)), ("alg", .string (.ofText Algorithm.edDSA.name)),
        ("kid", .string (.ofText id))] := by
    simp [headerDocument, Json.Document.record?, Json.Document.namedMembers?, Json.Document.known?,
      Json.Literal.text?_ofText, Header.memberNames]
  have algorithm : Algorithm.ofName? Algorithm.edDSA.name = some .edDSA := by decide
  simp [Header.ofDocument?, members, List.lookup_cons, Json.Document.name?, Json.Document.text?,
    Json.Document.optionalText?, Json.Literal.text?_ofText, algorithm, Header.admitsOthers,
    Json.Document.isOptionalTexts, Header.admitsKey]

lemma decoded_headerDocument {id : String} (plain : ∀ c ∈ id.toList, ' ' ≤ c ∧ c.toNat < 128) :
    (headerDocument id).tokens.map Json.Token.decoded = (headerDocument id).tokens := by
  have type := Json.Literal.decoded_ofText_of_all (s := "typ") (by decide)
  have algorithm := Json.Literal.decoded_ofText_of_all (s := "alg") (by decide)
  have name := Json.Literal.decoded_ofText_of_all (s := "kid") (by decide)
  have statement := Json.Literal.decoded_ofText_of_all (s := statementType) (by decide)
  have edDSA := Json.Literal.decoded_ofText_of_all (s := Algorithm.edDSA.name) (by decide)
  simp [headerDocument, Json.Document.tokens, Json.Document.tokensOfMembers, Json.Token.decoded,
    Json.Literal.decoded_ofText plain, type, algorithm, name, statement, edDSA]

/-- The header that names a key. -/
def headerOf (id : String) : Json :=
  .object [("typ", .string statementType), ("alg", .string Algorithm.edDSA.name), ("kid", .string id)]

/-- A header is in ASCII if the identifier in it needs no escapes and is. -/
lemma ascii_headerOf {id : String}
    (plain : ∀ c ∈ id.toList, Json.escape c = [c] ∧ c.toNat < 128) :
    ∀ c ∈ (headerOf id).compact.toList, c.toNat < 128 := by
  have unescaped : id.toList.flatMap Json.escape = id.toList := by
    refine Eq.trans (List.flatMap_congr fun c mem => (plain c mem).1) ?_
    exact List.flatMap_singleton' _
  have written : (headerOf id).compact.toList =
      "\x7b\"typ\":\"entity-statement+jwt\",\"alg\":\"EdDSA\",\"kid\":\"".toList ++
        (id.toList ++ "\"\x7d".toList) := by
    simp only [headerOf, Json.compact, Json.compactMembers, Json.quote, String.toList_append,
      String.toList_ofList, unescaped, List.append_assoc]
    rfl
  intro c mem
  rw [written, List.mem_append, List.mem_append] at mem
  rcases mem with mem | mem | mem
  · exact Text.forall_mem_of_all (p := fun c => c.toNat < 128) (by decide) c mem
  · exact (plain c mem).2
  · exact Text.forall_mem_of_all (p := fun c => c.toNat < 128) (by decide) c mem

lemma readPart_part (value : Json) : readPart (part value) = .ok (Text.bytes value.compact) := by
  rw [readPart, part, Base64Url.decodeToken, Base64Url.decodeBytes_encode]

lemma readHeader_of_readPart {part : String} {bytes : List UInt8} {document : Json.Document}
    {header : Header} (read : readPart part = .ok bytes)
    (parsed : Json.Document.ofBytes? bytes = some document)
    (named : Header.ofDocument? document = some header) : readHeader part = .ok header := by
  rw [readHeader, read]
  simp [bind, Except.bind, parsed, named, pure, Except.pure]

lemma document?_headerOf (id : String) : (headerOf id).document? = some (headerDocument id) := rfl

/-- **The header is read back.** -/
theorem readHeader_part (key : SigningKey) :
    readHeader (part (headerFor key)) = .ok ⟨.edDSA, some key.id, some statementType⟩ := by
  have plain : ∀ c ∈ key.id.toList,
      (' ' ≤ c ∧ c.toNat < 128) ∧ Json.escape c = [c] ∧ c.toNat < 128 := by
    intro c mem
    obtain ⟨n, small, rfl⟩ := SigningKey.symbol_of_mem_id mem
    obtain ⟨-, -, visible, ascii, unescaped⟩ := Base64Url.symbol_plain n small
    exact ⟨⟨visible, ascii⟩, unescaped, ascii⟩
  have parsed := Json.Document.ofBytes?_compact (ascii_headerOf fun c mem => (plain c mem).2)
    (document?_headerOf key.id) (decoded_headerDocument fun c mem => (plain c mem).1)
  exact readHeader_of_readPart (readPart_part (headerFor key)) parsed
    (ofDocument?_headerDocument key.id)

/-! ### Claims -/

lemma readClaims_of_readPart {part text : String} {document : Json.Document} {members : Members Json}
    (read : readPart part = .ok (Text.bytes text)) (parsed : Json.Document.parse? text = some document)
    (depth : document.depth ≤ Json.maxDepth) (admitted : admitsClaims document = true)
    (value : document.value? = some (.object members)) : readClaims part = .ok (.object members) := by
  rw [readClaims, read]
  simp [bind, Except.bind, Text.ofBytes?_bytes, parsed, Nat.not_lt.mpr depth, admitted, value, pure,
    Except.pure]

/-- **Simple claims are read back**, if they are not nested too deep and the reader of the registered
claims gets past them. -/
theorem readClaims_part {members : Members Json} (simple : (Json.object members).isSimple = true)
    (readable : ((Json.object members).document?.any fun document =>
      decide (document.depth ≤ Json.maxDepth) && admitsClaims document) = true) :
    readClaims (part (.object members)) = .ok (.object members) := by
  obtain ⟨document, written, value⟩ := Json.value?_of_isSimple simple
  rw [written, Option.any_some, Bool.and_eq_true, decide_eq_true_eq] at readable
  exact readClaims_of_readPart (readPart_part _) (Json.Document.parse?_compact written) readable.1
    readable.2 value

/-! ### Taking apart -/

/-- What a key signs. -/
def message (claims : Json) (key : SigningKey) : List UInt8 :=
  Text.bytes (part (headerFor key) ++ "." ++ part claims)

/-- What is signed are the symbols of both parts and the dot between them. -/
lemma message_eq (claims : Json) (key : SigningKey) : message claims key =
    (Base64Url.sextets (Text.bytes (headerOf key.id).compact)).map Base64Url.symbolByte ++
      46 :: (Base64Url.sextets (Text.bytes claims.compact)).map Base64Url.symbolByte := by
  have dot : Text.bytes "." = [46] := by decide +kernel
  rw [message, Text.bytes_append, Text.bytes_append, dot, List.append_assoc, List.singleton_append,
    part, part, Base64Url.bytes_encode, Base64Url.bytes_encode]
  rfl

/-- Claims signed by a key, taken apart. -/
def signed (claims : Json) (key : SigningKey) : Jws where
  header := ⟨.edDSA, some key.id, some statementType⟩
  headerPart := part (headerFor key)
  claimsPart := part claims
  signaturePart := Base64Url.encode (Ed25519.sign key.seed (message claims key))

/-- The text of three parts. -/
def joined (jws : Jws) : String :=
  jws.headerPart ++ "." ++ jws.claimsPart ++ "." ++ jws.signaturePart

lemma joined_of_sign (h : sign claims key = .ok raw) :
    raw = (signed claims key).joined ∧ ∃ members, claims = .object members := by
  unfold sign at h
  split at h
  · rename_i members
    cases h
    exact ⟨by simp [joined, signed, message], members, rfl⟩
  · cases h

lemma symbol_of_mem_signed {part : String} (mem : part ∈ [(signed claims key).headerPart,
    (signed claims key).claimsPart, (signed claims key).signaturePart]) {c : Char}
    (inside : c ∈ part.toList) : ∃ n < 64, Base64Url.symbol n = c := by
  obtain ⟨bytes, rfl⟩ : ∃ bytes, part = Base64Url.encode bytes := by
    simp only [List.mem_cons, List.not_mem_nil, or_false] at mem
    rcases mem with rfl | rfl | rfl <;> exact ⟨_, rfl⟩
  exact Base64Url.mem_encode inside

/-- Nothing is taken off the ends of signed claims. -/
lemma trim_joined_signed (claims : Json) (key : SigningKey) :
    Text.trim (signed claims key).joined = (signed claims key).joined := by
  have visible : ∀ part ∈ [(signed claims key).headerPart, (signed claims key).claimsPart,
      (signed claims key).signaturePart], ∀ c ∈ part.toList, Text.isBlank c = false := by
    intro part mem c inside
    obtain ⟨n, small, rfl⟩ := symbol_of_mem_signed mem inside
    exact (Base64Url.symbol_plain n small).2.1
  have dot : ∀ c ∈ ".".toList, Text.isBlank c = false := Text.forall_mem_of_all (by decide)
  refine Text.trim_eq_self fun c mem => ?_
  simp only [joined, String.toList_append, List.mem_append] at mem
  rcases mem with (((mem | mem) | mem) | mem) | mem
  · exact visible _ (by simp) c mem
  · exact dot c mem
  · exact visible _ (by simp) c mem
  · exact dot c mem
  · exact visible _ (by simp) c mem

/-- **Signed claims are taken apart as they were put together.** -/
theorem read_joined_signed (claims : Json) (key : SigningKey) :
    read (signed claims key).joined = .ok (signed claims key) := by
  have parts := Text.splitOn_joined (a := (signed claims key).headerPart)
    (b := (signed claims key).claimsPart) (c := (signed claims key).signaturePart) <| by
      intro part mem dot
      obtain ⟨n, small, symbol⟩ := symbol_of_mem_signed mem dot
      exact (Base64Url.symbol_plain n small).1 symbol
  have header : readHeader (signed claims key).headerPart = .ok (signed claims key).header :=
    readHeader_part key
  have cut : (Text.trim (signed claims key).joined).splitOn "." =
      [(signed claims key).headerPart, (signed claims key).claimsPart,
        (signed claims key).signaturePart] := by
    rw [trim_joined_signed]
    exact parts
  rw [read, cut]
  show (readHeader (signed claims key).headerPart >>= _) = _
  rw [header]
  rfl

end Jws

/-! ### Keys -/

/-- A signature is only verified by 32 bytes that encode a point. -/
lemma Ed25519.usable_of_verify {key message signature : List UInt8}
    (verified : verify key message signature = true) :
    key.length = 32 ∧ (Point.decode? key).isSome = true := by
  unfold verify at verified
  split at verified
  · cases verified
  · rename_i lengths
    rw [not_or, not_not, not_not] at lengths
    refine ⟨lengths.2, ?_⟩
    cases point : Point.decode? key with
    | none =>
        rw [point] at verified
        cases verified
    | some _ => rfl

namespace Key

variable {published : Key}

lemma ed25519_of_x {bytes : List UInt8} (usable : published.isEd25519 = true)
    (material : published.x = some (Base64Url.encode bytes)) (length : bytes.length = 32)
    (point : (Ed25519.Point.decode? bytes).isSome = true) : published.ed25519 = .ok bytes := by
  obtain ⟨found, decoded⟩ := Option.isSome_iff_exists.mp point
  simp [ed25519, usable, material, Base64Url.decodeKey, Base64Url.decodeBytes_encode, length, decoded]

/-- A published key verifies what a signing key signs. -/
def Verifies (published : Key) (key : SigningKey) (message : List UInt8) : Prop :=
  ∃ bytes, published.ed25519 = .ok bytes ∧
    Ed25519.verify bytes message (Ed25519.sign key.seed message) = true

instance (published : Key) (key : SigningKey) (message : List UInt8) :
    Decidable (published.Verifies key message) :=
  decidable_of_iff ((published.ed25519.toOption.any fun bytes =>
      Ed25519.verify bytes message (Ed25519.sign key.seed message)) = true) <| by
    simp only [Verifies, Option.any_eq_true, Except.toOption_eq_some_iff]

/-- **The public half of a signing key verifies what it signs**, under whatever identifier it is
published, as long as it may be used for that. -/
theorem verifies_of_own {key : SigningKey} {message : List UInt8}
    (usable : published.isEd25519 = true) (own : published.x = key.publicKey.x)
    (verified : Ed25519.verify key.publicBytes message (Ed25519.sign key.seed message) = true) :
    published.Verifies key message := by
  obtain ⟨length, point⟩ := Ed25519.usable_of_verify verified
  have material : key.publicKey.x = some (Base64Url.encode key.publicBytes) := rfl
  exact ⟨key.publicBytes, ed25519_of_x usable (own.trans material) length point, verified⟩

end Key

namespace Jws

variable {key : SigningKey} {claims : Json} {keys : KeySet} {published : Key}

/-- **The first key of the identifier decides**, by its material. -/
theorem verify_signed (claims : Json) (found : keys.find? key.id = some published) :
    (published.Verifies key (message claims key) →
      (signed claims key).verify keys = readClaims (part claims)) ∧
    (¬published.Verifies key (message claims key) →
      (signed claims key).verify keys = .error unverified) := by
  have chosen : (signed claims key).candidates keys = [published] := by
    rw [candidates]
    show (keys.find? key.id).toList = _
    rw [found]
    rfl
  have signature : Base64Url.decodeToken (signed claims key).signaturePart =
      .ok (Ed25519.sign key.seed (message claims key)) :=
    Base64Url.decodeBytes_encode false _
  rw [verify, if_neg (by simp [signed]), chosen]
  show (_ → verifyAny _ [published] = _) ∧ (_ → verifyAny _ [published] = _)
  rw [verifyAny]
  cases usable : published.ed25519 with
  | error why =>
      refine ⟨fun verifies => ?_, fun _ => rfl⟩
      obtain ⟨bytes, material, _⟩ := verifies
      rw [usable] at material
      cases material
  | ok bytes =>
      rw [signature]
      refine ⟨fun verifies => ?_, fun refused => if_neg fun genuine => refused ⟨bytes, usable, genuine⟩⟩
      obtain ⟨_, material, genuine⟩ := verifies
      rw [usable] at material
      cases material
      exact if_pos genuine

end Jws

end Federation
