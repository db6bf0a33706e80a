import Federation.Address.Percent
import Federation.Proofs.Address.Characters
import Federation.Proofs.Bytes

/-!
# What is encoded needs no encoding

**Encoding.**  What is encoded consists of escapes and of characters that need none
(`Percent.mem_encode`).  If the characters of escapes need none either (`Percent.clean_of_mem_encode`),
encoding again changes nothing (`Percent.encode_eq_self`).

**Visible texts.**  A character that stays as it is in a user, a password or a path can be seen
(`Percent.isGraphic_of_not_isPathReserved`).

**Decoding.**  Without a percent sign there is nothing to decode (`Percent.decode_of_not_mem`).
-/

namespace Federation.Percent

variable {mustEncode : Char → Bool} {cs : List Char} {c : Char}

/-- The characters that escapes are made of. -/
def escapeCharacters : List Char :=
  "%0123456789ABCDEF".toList

lemma mem_encode (mem : c ∈ encode mustEncode cs) :
    c ∈ escapeCharacters ∨ c ∈ cs ∧ mustEncode c = false := by
  have digits : ∀ n < 16, Text.upperHexDigit n ∈ escapeCharacters := by decide
  obtain ⟨d, mem, written⟩ := List.mem_flatMap.mp mem
  split at written
  · obtain ⟨b, -, written⟩ := List.mem_flatMap.mp written
    have byte := b.toNat_lt
    rw [List.mem_cons, List.mem_cons, List.mem_singleton] at written
    left
    obtain rfl | rfl | rfl := written
    · decide
    · exact digits _ (by omega)
    · exact digits _ (by omega)
  · rename_i kept
    rw [List.mem_singleton.mp written]
    exact .inr ⟨mem, Bool.eq_false_iff.mpr kept⟩

lemma encode_eq_self (clean : ∀ c ∈ cs, mustEncode c = false) : encode mustEncode cs = cs := by
  induction cs with
  | nil => rfl
  | cons c cs ih =>
      obtain ⟨here, later⟩ := List.forall_mem_cons.mp clean
      rw [encode, List.flatMap_cons, here, if_neg Bool.false_ne_true]
      exact congrArg (c :: ·) (ih later)

/-- Every character is written somehow. -/
lemma encode_ne_nil (filled : cs ≠ []) : encode mustEncode cs ≠ [] := by
  obtain ⟨c, cs, rfl⟩ := List.exists_cons_of_ne_nil filled
  intro nothing
  have here := (List.flatMap_eq_nil_iff.mp nothing) c List.mem_cons_self
  split at here
  · have empty : Text.bytes (String.ofList [c]) = [] := by
      refine List.eq_nil_iff_forall_not_mem.mpr fun b mem => ?_
      exact List.cons_ne_nil _ _ (List.flatMap_eq_nil_iff.mp here b mem)
    have same := Text.bytes_injective (empty.trans (@Text.bytes_ofList [] (List.forall_mem_nil _)).symm)
    exact List.cons_ne_nil _ _ (String.ofList_injective same)
  · exact List.cons_ne_nil _ _ here

/-- **What is encoded needs no encoding**, if escapes need none. -/
lemma clean_of_mem_encode (kept : escapeCharacters.any mustEncode = false)
    (mem : c ∈ encode mustEncode cs) : mustEncode c = false := by
  rcases mem_encode mem with escape | ⟨-, clean⟩
  · exact Bool.eq_false_iff.mpr (List.any_eq_false.mp kept c escape)
  · exact clean

lemma isGraphic_of_not_isControl (kept : isControl c = false) (noBlank : c ≠ ' ') : IsGraphic c := by
  simp only [isControl, Bool.or_eq_false_iff, decide_eq_false_iff_not] at kept
  have noBlank : c.toNat ≠ 32 := fun blank => noBlank (Char.toNat_inj.mp blank)
  have low : ¬c.toNat < 32 := kept.1
  have high : ¬126 < c.toNat := kept.2
  unfold IsGraphic
  omega

lemma isGraphic_of_not_isPathReserved (kept : isPathReserved c = false) : IsGraphic c := by
  rw [isPathReserved, Bool.or_eq_false_iff] at kept
  refine isGraphic_of_not_isControl kept.1 ?_
  rintro rfl
  simp at kept

lemma isGraphic_of_not_isUserinfoReserved (kept : isUserinfoReserved c = false) : IsGraphic c := by
  rw [isUserinfoReserved, Bool.or_eq_false_iff] at kept
  exact isGraphic_of_not_isPathReserved kept.1

/-- Without a percent sign there is nothing to decode. -/
lemma decode_of_not_mem (plain : '%' ∉ cs) : decode cs = Text.bytes (String.ofList cs) := by
  induction cs with
  | nil =>
      rw [decode]
      exact (@Text.bytes_ofList [] (List.forall_mem_nil _)).symm
  | cons c cs ih =>
      obtain ⟨here, later⟩ := not_or.mp (mt List.mem_cons.mpr plain)
      rw [decode, ih later, ← Text.bytes_append, ← String.ofList_append, List.singleton_append]
      rintro a b rest rfl
      exact absurd rfl here

end Federation.Percent
