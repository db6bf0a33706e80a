import Federation.Crypto.Base64Url
import Mathlib.Data.List.Basic
import Mathlib.Tactic.Lemma

/-!
# Bytes are read back

A text is its bytes, and bytes survive being written as URL-safe text.

**Texts.**  `Text.ofBytes?_bytes` goes from a text to its bytes and back.  Characters of ASCII are one
byte each (`Text.bytes_ofList`).

**URL-safe texts.**  Between bytes and symbols stand numbers below 64 (`Base64Url.sextets`).  What
`Base64Url.encode` writes holds no other symbols than those of the alphabet, and both readers find the
bytes in it (`Base64Url.decodeBytes_encode`) and in no other text (`Base64Url.bytes_eq_of_decodeBytes`).
-/

namespace Federation

namespace Text

lemma toList_loop (bytes : ByteArray) (i : Nat) (before : List UInt8) :
    ByteArray.toList.loop bytes i before = before.reverse ++ bytes.data.toList.drop i := by
  fun_induction ByteArray.toList.loop bytes i before with
  | case1 i before inside ih =>
      have here : bytes.data.toList.drop i = bytes.get! i :: bytes.data.toList.drop (i + 1) := by
        have place : i < bytes.data.toList.length := inside
        rw [List.drop_eq_getElem_cons place, ByteArray.get!]
        simp [inside]
      rw [ih, here, List.reverse_cons, List.append_assoc, List.singleton_append]
  | case2 i before outside =>
      have length : bytes.data.toList.length = bytes.size := Array.length_toList
      rw [List.drop_eq_nil_of_le (by omega), List.append_nil]

lemma bytes_eq (s : String) : bytes s = s.toUTF8.data.toList := by
  simp [bytes, ByteArray.toList, toList_loop]

lemma bytes_append (s t : String) : bytes (s ++ t) = bytes s ++ bytes t := by
  simp [bytes_eq]

/-- A text is found in its bytes. -/
lemma ofBytes?_bytes (s : String) : ofBytes? (bytes s) = some s := by
  have data : ByteArray.mk (bytes s).toArray = s.toUTF8 := by
    rw [bytes_eq]
  rw [ofBytes?, data, String.fromUTF8?, String.toUTF8_eq_toByteArray, dif_pos s.isValidUTF8]
  rfl

lemma bytes_injective : Function.Injective bytes := by
  intro s t same
  have read := ofBytes?_bytes s
  rw [same, ofBytes?_bytes] at read
  exact (Option.some.inj read).symm

/-- A text of ASCII has one byte for each character. -/
lemma bytes_ofList {cs : List Char} (ascii : ∀ c ∈ cs, c.toNat < 128) :
    bytes (String.ofList cs) = cs.map fun c => UInt8.ofNat c.toNat := by
  have encoded : cs.flatMap String.utf8EncodeChar = cs.map fun c => UInt8.ofNat c.toNat := by
    rw [List.map_eq_flatMap]
    refine List.flatMap_congr fun c mem => ?_
    exact if_pos (Nat.le_of_lt_succ (ascii c mem))
  rw [bytes_eq, String.toUTF8, String.toByteArray_ofList, List.utf8Encode, encoded,
    List.data_toByteArray]

end Text

namespace Base64Url

/-! ### Numbers and symbols -/

/-- The numbers whose symbols are written for bytes. -/
def sextets : List UInt8 → List Nat
  | [] => []
  | [a] => [a.toNat / 4, a.toNat % 4 * 16]
  | [a, b] => [a.toNat / 4, a.toNat % 4 * 16 + b.toNat / 16, b.toNat % 16 * 4]
  | a :: b :: c :: rest =>
    (a.toNat / 4) :: (a.toNat % 4 * 16 + b.toNat / 16) :: (b.toNat % 16 * 4 + c.toNat / 64) ::
      (c.toNat % 64) :: sextets rest

lemma symbols_eq (bs : List UInt8) : symbols bs = (sextets bs).map symbol := by
  fun_induction sextets bs with
  | case1 => rfl
  | case2 a => rfl
  | case3 a b => rfl
  | case4 a b c rest ih => rw [symbols, ih, List.map_cons, List.map_cons, List.map_cons, List.map_cons]

lemma sextets_lt (bs : List UInt8) : ∀ n ∈ sextets bs, n < 64 := by
  fun_induction sextets bs with
  | case1 => simp
  | case2 a =>
      have := a.toNat_lt
      simp
      omega
  | case3 a b =>
      have := a.toNat_lt
      have := b.toNat_lt
      simp
      omega
  | case4 a b c rest ih =>
      have := a.toNat_lt
      have := b.toNat_lt
      have := c.toNat_lt
      simp only [List.forall_mem_cons]
      exact ⟨by omega, by omega, by omega, by omega, ih⟩

/-- The byte of a symbol. -/
def symbolByte (n : Nat) : UInt8 := UInt8.ofNat (symbol n).toNat

lemma value?_symbolByte : ∀ n < 64, value? (symbolByte n) = some n := by
  decide

lemma symbol_ascii : ∀ n < 64, (symbol n).toNat < 128 := by
  decide

lemma bytes_encode (bs : List UInt8) : Text.bytes (encode bs) = (sextets bs).map symbolByte := by
  have ascii : ∀ c ∈ (sextets bs).map symbol, c.toNat < 128 := by
    intro c mem
    obtain ⟨n, listed, rfl⟩ := List.mem_map.mp mem
    exact symbol_ascii n (sextets_lt bs n listed)
  rw [encode, symbols_eq, Text.bytes_ofList ascii, List.map_map]
  rfl

/-! ### Reading -/

lemma firstNonSymbol_symbolBytes {ns : List Nat} (small : ∀ n ∈ ns, n < 64) (offset : Nat) :
    firstNonSymbol offset (ns.map symbolByte) = none := by
  induction ns generalizing offset with
  | nil => rfl
  | cons n ns ih =>
      rw [List.forall_mem_cons] at small
      rw [List.map_cons, firstNonSymbol, value?_symbolByte n small.1]
      exact ih small.2 (offset + 1)

lemma filterMap_symbolBytes {ns : List Nat} (small : ∀ n ∈ ns, n < 64) :
    (ns.map symbolByte).filterMap value? = ns := by
  rw [List.filterMap_map]
  refine Eq.trans (List.filterMap_congr fun n mem => ?_) List.filterMap_some
  exact value?_symbolByte n (small n mem)

/-- The length is one that bytes can have. -/
lemma length_sextets (bs : List UInt8) : (sextets bs).length % 4 ≠ 1 := by
  fun_induction sextets bs with
  | case1 => decide
  | case2 a => simp
  | case3 a b => simp
  | case4 a b c rest ih =>
      simp only [List.length_cons]
      omega

lemma unusedBitsClear_sextets (bs : List UInt8) : unusedBitsClear (sextets bs) = true := by
  fun_induction sextets bs with
  | case1 => rfl
  | case2 a => simp [unusedBitsClear]
  | case3 a b => simp [unusedBitsClear]
  | case4 a b c rest ih =>
      cases written : sextets rest with
      | nil => simp [unusedBitsClear]
      | cons n ns =>
          rw [written] at ih
          have length : (ns.length + 1 + 4) % 4 = (ns.length + 1) % 4 := by omega
          simpa [unusedBitsClear, List.getLast?_cons_cons, length] using ih

lemma bytesOfValues_sextets (bs : List UInt8) : bytesOfValues (sextets bs) = bs := by
  have same : ∀ {n : Nat} {b : UInt8}, n = b.toNat → UInt8.ofNat n = b := by
    rintro _ b rfl
    exact UInt8.ofNat_toNat
  fun_induction sextets bs with
  | case1 => rfl
  | case2 a => rw [bytesOfValues, same (b := a) (by omega)]
  | case3 a b =>
      have := b.toNat_lt
      rw [bytesOfValues, same (b := a) (by omega), same (b := b) (by omega)]
  | case4 a b c rest ih =>
      have := b.toNat_lt
      have := c.toNat_lt
      rw [bytesOfValues, ih, same (b := a) (by omega), same (b := b) (by omega),
        same (b := c) (by omega)]

/-- **Bytes are found in what is written for them**, whatever is looked at first. -/
theorem decodeBytes_encode (lengthFirst : Bool) (bs : List UInt8) :
    decodeBytes lengthFirst (Text.bytes (encode bs)) = .ok bs := by
  have small := sextets_lt bs
  have length : ((sextets bs).length % 4 == 1) = false := by
    simpa using length_sextets bs
  rw [bytes_encode, decodeBytes]
  simp only [List.length_map, length, firstNonSymbol_symbolBytes small, filterMap_symbolBytes small,
    unusedBitsClear_sextets, bytesOfValues_sextets]
  cases bs with
  | nil => rfl
  | cons b bs =>
      cases last : ((sextets (b :: bs)).map symbolByte).getLast? with
      | some _ => rfl
      | none =>
          rw [List.getLast?_eq_none_iff, List.map_eq_nil_iff] at last
          have same := bytesOfValues_sextets (b :: bs)
          rw [last] at same
          cases same

lemma encode_injective : Function.Injective encode := by
  intro bs bs' same
  have read := decodeBytes_encode false bs
  rw [same, decodeBytes_encode] at read
  exact (Except.ok.inj read).symm

/-! ### Only what is written is read -/

/-- A byte with a value is the byte of a symbol. -/
lemma symbolByte_of_value? {b : UInt8} {n : Nat} (h : value? b = some n) :
    n < 64 ∧ symbolByte n = b := by
  have all : ∀ b : Fin 256, ∀ n ∈ value? (UInt8.ofNat b), n < 64 ∧ symbolByte n = UInt8.ofNat b := by
    decide +kernel
  have same : UInt8.ofNat b.toNat = b := UInt8.ofNat_toNat
  have found := all ⟨b.toNat, b.toNat_lt⟩ n
  rw [same] at found
  exact found h

lemma symbolBytes_of_firstNonSymbol {text : List UInt8} {offset : Nat}
    (h : firstNonSymbol offset text = none) :
    (text.filterMap value?).map symbolByte = text ∧ ∀ n ∈ text.filterMap value?, n < 64 := by
  induction text generalizing offset with
  | nil => exact ⟨rfl, nofun⟩
  | cons b rest ih =>
      unfold firstNonSymbol at h
      split at h
      · rename_i n value
        obtain ⟨small, symbol⟩ := symbolByte_of_value? value
        obtain ⟨later, all_small⟩ := ih h
        rw [List.filterMap_cons_some value, List.map_cons, later, symbol]
        exact ⟨rfl, List.forall_mem_cons.mpr ⟨small, all_small⟩⟩
      · cases h

/-- Numbers whose unused bits are zero are those that are written for their bytes. -/
lemma sextets_bytesOfValues {ns : List Nat} (small : ∀ n ∈ ns, n < 64) (length : ns.length % 4 ≠ 1)
    (clear : unusedBitsClear ns = true) : sextets (bytesOfValues ns) = ns := by
  have toNat : ∀ n < 256, (UInt8.ofNat n).toNat = n := fun n bound =>
    UInt8.toNat_ofNat_of_lt bound
  fun_induction bytesOfValues ns with
  | case1 a b c d rest ih =>
      simp only [List.forall_mem_cons] at small
      obtain ⟨ha, hb, hc, hd, small⟩ := small
      have clear' : unusedBitsClear rest = true := by
        cases rest with
        | nil => rfl
        | cons n rest =>
            have count : (rest.length + 1 + 4) % 4 = (rest.length + 1) % 4 := by omega
            simpa [unusedBitsClear, List.getLast?_cons_cons, count] using clear
      have length' : rest.length % 4 ≠ 1 := by
        simp only [List.length_cons] at length
        omega
      rw [sextets, ih small length' clear', toNat _ (by omega), toNat _ (by omega), toNat _ (by omega)]
      simp only [List.cons.injEq, and_true]
      omega
  | case2 a b c =>
      simp only [List.forall_mem_cons] at small
      have last : c % 4 = 0 := by
        simpa [unusedBitsClear] using clear
      rw [sextets, toNat _ (by omega), toNat _ (by omega)]
      simp only [List.cons.injEq, and_true]
      omega
  | case3 a b =>
      simp only [List.forall_mem_cons] at small
      have last : b % 16 = 0 := by
        simpa [unusedBitsClear] using clear
      rw [sextets, toNat _ (by omega)]
      simp only [List.cons.injEq, and_true]
      omega
  | case4 ns notFour notThree notTwo =>
      cases ns with
      | nil => rfl
      | cons a rest =>
          cases rest with
          | nil => exact absurd rfl length
          | cons b rest =>
              cases rest with
              | nil => exact absurd rfl (notTwo a b)
              | cons c rest =>
                  cases rest with
                  | nil => exact absurd rfl (notThree a b c)
                  | cons d rest => exact absurd rfl (notFour a b c d rest)

/-- **Bytes are read only from what is written for them.** -/
theorem bytes_eq_of_decodeBytes {lengthFirst : Bool} {text bs : List UInt8}
    (h : decodeBytes lengthFirst text = .ok bs) : text = Text.bytes (encode bs) := by
  unfold decodeBytes at h
  dsimp only at h
  split at h
  · rename_i empty
    cases h
    rw [List.getLast?_eq_none_iff.mp empty, bytes_encode]
    rfl
  · split at h
    · cases h
    · split at h
      · cases h
      · split at h
        · cases h
        · rename_i symbols
          split at h
          · cases h
          · rename_i notTooLong
            split at h
            · rename_i clear
              cases h
              obtain ⟨same, small⟩ := symbolBytes_of_firstNonSymbol symbols
              have length : (text.filterMap value?).length % 4 ≠ 1 := by
                have count := congrArg List.length same
                rw [List.length_map] at count
                rw [count]
                simpa using notTooLong
              rw [bytes_encode, sextets_bytesOfValues small length clear, same]
            · cases h

/-- A text from which bytes are read is the one that is written for them. -/
lemma eq_encode_of_decodeKey {text : String} {bs : List UInt8} (h : decodeKey text = .ok bs) :
    text = encode bs :=
  Text.bytes_injective (bytes_eq_of_decodeBytes h)

/-- A written text consists of symbols. -/
lemma mem_encode {bs : List UInt8} {c : Char} (mem : c ∈ (encode bs).toList) :
    ∃ n < 64, symbol n = c := by
  rw [encode, String.toList_ofList, symbols_eq] at mem
  obtain ⟨n, listed, written⟩ := List.mem_map.mp mem
  exact ⟨n, sextets_lt bs n listed, written⟩

end Base64Url

end Federation
