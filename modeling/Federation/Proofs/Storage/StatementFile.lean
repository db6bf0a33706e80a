import Federation.Proofs.Bytes
import Federation.Proofs.Constraints
import Federation.Proofs.Json.Printed
import Federation.Storage.StatementFile

/-!
# Names and contents of statement files

A statement file is named by the digest of issuer and subject with a bar between them, and says in its
content whose statement it holds.

**Contents.**  What is written is read again (`StatementFile.read?_text`) as long as both identifiers
are the ones their texts denote.

**Names.**  Digest and digits tell apart what is digested (`StatementFile.name_eq_iff`), but what is
digested does not tell apart all pairs: a bar may stand in the path of an identifier as well.  Two
pairs are joined to one text exactly when the text between two bars can be moved from the subject of
one to the issuer of the other (`StatementFile.joined_eq_iff`).
-/

namespace Federation

/-! ### Bytes and digits -/

namespace Text

lemma lowerHexDigit_inj : ∀ m < 16, ∀ n < 16, lowerHexDigit m = lowerHexDigit n → m = n := by
  decide

/-- Digits tell bytes apart. -/
lemma hex_injective : Function.Injective hex := by
  intro bs
  induction bs with
  | nil =>
      intro cs same
      cases cs with
      | nil => rfl
      | cons c cs => simp [hex] at same
  | cons b bs ih =>
      intro cs same
      cases cs with
      | nil => simp [hex] at same
      | cons c cs =>
          simp only [hex, List.flatMap_cons, String.ofList_inj, List.cons_append, List.nil_append,
            List.cons.injEq] at same
          obtain ⟨upper, lower, later⟩ := same
          have bound := b.toNat_lt
          have bound' := c.toNat_lt
          have upper := lowerHexDigit_inj _ (by omega) _ (by omega) upper
          have lower := lowerHexDigit_inj _ (by omega) _ (by omega) lower
          have here : b = c := UInt8.toNat_inj.mp (by omega)
          have there : bs = cs := ih (congrArg String.ofList later)
          rw [here, there]

lemma length_hex (bs : List UInt8) : (hex bs).length = 2 * bs.length := by
  simp [hex, Nat.mul_comm]

end Text

lemma Sha2.length_sha256 (message : List UInt8) : (sha256 message).length = 32 := by
  simp [sha256, digest, State.toList, bigEndian]

namespace StatementFile

/-! ### Contents -/

lemma version?_numeral {n : Nat} (small : n < UInt32.size) :
    version? (.number (.ofInt n)) = some n := by
  have value : (Json.Numeral.ofInt n).value? = some (.integer n) :=
    Json.Numeral.value?_ofInt (by omega) (by
      have larger : UInt32.size < UInt64.size := by decide
      omega)
  have inRange : (0 : Int) ≤ n ∧ (n : Int) < UInt32.size := by omega
  simp only [version?, value, if_pos inRange, Int.toNat_natCast]

lemma id?_literal {id : EntityId} (stable : id.Stable) :
    id? (.string (.ofText id.text)) = some id := by
  have read : EntityId.ofText id.text = .ok id := Except.mapError_eq_ok_iff.mp stable
  simp [id?, Json.Document.text?, Json.Literal.text?_ofText, read, Except.toOption]

/-- What is written in a file. -/
def document (file : StatementFile) : Json.Document :=
  .object
    [(.ofText "version", .number (.ofInt file.version)),
      (.ofText "issuer", .string (.ofText file.issuer.text)),
      (.ofText "subject", .string (.ofText file.subject.text)),
      (.ofText "jws", .string (.ofText file.jws))]

lemma record?_document (file : StatementFile) :
    file.document.record? memberNames =
      some [("version", .number (.ofInt file.version)),
        ("issuer", .string (.ofText file.issuer.text)),
        ("subject", .string (.ofText file.subject.text)), ("jws", .string (.ofText file.jws))] := by
  simp [document, Json.Document.record?, Json.Document.namedMembers?, Json.Document.known?,
    Json.Literal.text?_ofText, memberNames]

/-- **What is written is read again**, if both identifiers are the ones their texts denote. -/
theorem read?_text {file : StatementFile} (version : file.version < UInt32.size)
    (issuer : file.issuer.Stable) (subject : file.subject.Stable) : read? file.text = some file := by
  have parsed : Json.Document.parse? file.text = some file.document :=
    Json.Document.parse?_pretty rfl
  have signed : Json.Document.text? (.string (.ofText file.jws)) = some file.jws :=
    Json.Literal.text?_ofText file.jws
  rw [read?, parsed, Option.bind_some, ofDocument?, record?_document]
  simp [List.lookup_cons, version?_numeral version, id?_literal issuer, id?_literal subject, signed]

/-! ### Names -/

/-- What is digested for the name of the file of a pair. -/
def joined (pair : EntityId × EntityId) : String := s!"{pair.1}|{pair.2}"

/-- The text between two bars is at the end of the one issuer and at the beginning of the other
subject. -/
def Shifted (pair other : EntityId × EntityId) : Prop :=
  ∃ between : String, other.1.text = pair.1.text ++ "|" ++ between ∧
    pair.2.text = between ++ "|" ++ other.2.text

variable {pair other : EntityId × EntityId}

lemma toList_joined (pair : EntityId × EntityId) :
    (joined pair).toList = pair.1.text.toList ++ '|' :: pair.2.text.toList := by
  simp [joined, toString]

lemma eq_or_shifted {between : List Char}
    (issuers : other.1.text.toList = pair.1.text.toList ++ between)
    (subjects : '|' :: pair.2.text.toList = between ++ '|' :: other.2.text.toList) :
    pair = other ∨ Shifted pair other := by
  cases between with
  | nil =>
      have sameIssuer : pair.1.text = other.1.text := String.toList_inj.mp (by simpa using issuers.symm)
      have sameSubject : pair.2.text = other.2.text := String.toList_inj.mp (by simpa using subjects)
      exact .inl (Prod.ext (congrArg EntityId.mk sameIssuer) (congrArg EntityId.mk sameSubject))
  | cons c between =>
      obtain ⟨rfl, subjects⟩ := List.cons.inj subjects
      refine .inr ⟨String.ofList between, ?_, ?_⟩
      · exact String.toList_inj.mp (by simpa using issuers)
      · exact String.toList_inj.mp (by simpa using subjects)

lemma Shifted.joined_eq (shifted : Shifted pair other) : joined pair = joined other := by
  obtain ⟨between, issuers, subjects⟩ := shifted
  apply String.toList_inj.mp
  rw [toList_joined, toList_joined, issuers, subjects]
  simp

lemma Shifted.ne (shifted : Shifted pair other) : pair ≠ other := by
  rintro rfl
  obtain ⟨between, issuers, -⟩ := shifted
  have bar : "|".length = 1 := rfl
  have length := congrArg String.length issuers
  rw [String.length_append, String.length_append] at length
  omega

/-- Where no issuer has a bar in it, nothing is shifted. -/
lemma not_shifted_of_noBar (noBar : '|' ∉ other.1.text.toList) : ¬Shifted pair other := by
  rintro ⟨between, issuers, -⟩
  rw [issuers] at noBar
  simp at noBar

/-- **Pairs are joined to one text just when they are shifted against each other.** -/
theorem joined_eq_iff :
    joined pair = joined other ↔ pair = other ∨ Shifted pair other ∨ Shifted other pair := by
  constructor
  · intro same
    have chars := congrArg String.toList same
    rw [toList_joined, toList_joined, List.append_eq_append_iff] at chars
    rcases chars with ⟨between, issuers, subjects⟩ | ⟨between, issuers, subjects⟩
    · exact (eq_or_shifted issuers subjects).imp_right .inl
    · exact (eq_or_shifted issuers subjects).imp Eq.symm .inr
  · rintro (rfl | shifted | shifted)
    · rfl
    · exact shifted.joined_eq
    · exact shifted.joined_eq.symm

lemma name_eq_iff :
    name pair.1 pair.2 = name other.1 other.2 ↔
      Sha2.sha256 (Text.bytes (joined pair)) = Sha2.sha256 (Text.bytes (joined other)) := by
  constructor
  · intro same
    have digits := String.append_left_inj _ |>.mp same
    exact Text.hex_injective digits
  · intro same
    rw [joined, joined] at same
    rw [name, name, same]

end StatementFile

end Federation
