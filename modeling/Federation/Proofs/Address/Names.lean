import Federation.Address.Domain
import Federation.Proofs.Address.Characters
import Federation.Proofs.Bytes
import Federation.Proofs.Checks

/-!
# What host names are made of

Whatever a host name was read from, its ASCII form is made of characters that names may hold
(`Domain.allowed_of_toAscii?`).

**Labels.**  A label beyond ASCII is written in digits behind its own plain characters, which is an
invariant of the writer (`Punycode.forall_mem_encode`).

**Own forms.**  `Domain.IsOwnForm` says that a name is its own ASCII form.  A plain name in lower case is
(`Domain.isOwnForm_of_lower`).  The form of a name beyond ASCII need not be: its label may become too long.
-/

namespace Federation

/-! ### Labels -/

namespace Punycode

variable {P : Char → Prop}

lemma forall_mem_numberText (digits : ∀ value < base, P (digit value)) (bias place n : Nat) :
    ∀ c ∈ numberText bias place n, P c := by
  have bounds : ∀ place, threshold bias place ≤ 26 := fun place => by
    unfold threshold
    omega
  fun_induction numberText bias place n with
  | case1 place n t last =>
      have := bounds place
      exact List.forall_mem_singleton.mpr (digits n (show n < 36 by omega))
  | case2 place n t more ih =>
      have := bounds place
      have rest : (n - t) % (base - t) < base - t := Nat.mod_lt _ (show 0 < 36 - t by omega)
      exact List.forall_mem_cons.mpr ⟨digits _ (by omega), ih⟩

/-- What holds of all that has been written holds after one more character of the label. -/
lemma forall_mem_pass (digits : ∀ value < base, P (digit value)) {point : Nat} {w : Writer}
    (written : ∀ c ∈ w.text, P c) (c : Nat) : ∀ d ∈ (w.pass point c).text, P d := by
  unfold Writer.pass
  split
  · exact written
  · split
    · refine List.forall_mem_append.mpr ⟨fun d mem => ?_, written⟩
      exact forall_mem_numberText digits _ _ _ d (List.mem_reverse.mp mem)
    · exact written

lemma forall_mem_writeAll (digits : ∀ value < base, P (digit value)) {label points : List Nat}
    {w : Writer} {next : Nat} (written : ∀ c ∈ w.text, P c) :
    ∀ c ∈ (writeAll label w next points).text, P c := by
  induction points generalizing w next with
  | nil => exact written
  | cons point rest ih =>
      have round : ∀ (label : List Nat) (w : Writer), (∀ c ∈ w.text, P c) →
          ∀ c ∈ (label.foldl (Writer.pass point) w).text, P c := by
        intro label
        induction label with
        | nil => exact fun _ written => written
        | cons c label ih => exact fun w written => ih _ (forall_mem_pass digits written c)
      exact ih (round label { w with distance := _ } written)

/-- **A label is written in digits behind its own plain characters.** -/
theorem forall_mem_encode {label : List Char} (digits : ∀ value < base, P (digit value)) (dash : P '-')
    (plain : ∀ c ∈ label, c.toNat < firstPoint → P c) : ∀ c ∈ encode label, P c := by
  have start : ∀ c ∈ if (label.filter fun c => c.toNat < firstPoint).isEmpty then []
      else '-' :: (label.filter fun c => c.toNat < firstPoint).reverse, P c := by
    split
    · exact List.forall_mem_nil P
    · refine List.forall_mem_cons.mpr ⟨dash, fun c mem => ?_⟩
      obtain ⟨mem, early⟩ := List.mem_filter.mp (List.mem_reverse.mp mem)
      exact plain c mem (of_decide_eq_true early)
  intro c mem
  exact forall_mem_writeAll digits start c (List.mem_reverse.mp mem)

end Punycode

/-! ### Names -/

namespace Domain

variable {c : Char} {cs : List Char} {bs : List UInt8} {name : String}

/-- A character that a name in ASCII may hold. -/
def IsAllowed (c : Char) : Prop :=
  isAscii c = true ∧ isForbidden c = false

instance (c : Char) : Decidable (IsAllowed c) :=
  inferInstanceAs (Decidable (_ ∧ _))

namespace IsAllowed

lemma isGraphic (h : IsAllowed c) : IsGraphic c := by
  obtain ⟨ascii, allowed⟩ := h
  simp only [isForbidden, Bool.or_eq_false_iff, decide_eq_false_iff_not, beq_eq_false_iff_ne] at allowed
  have low : ¬c.toNat ≤ 32 := allowed.1.1
  have delete : c.toNat ≠ 127 := fun same => allowed.1.2 (Char.toNat_inj.mp same)
  have high : c.toNat < 128 := of_decide_eq_true ascii
  unfold IsGraphic
  omega

lemma toLower (h : IsAllowed c) : IsAllowed c.toLower :=
  h.isGraphic.of_listed h (by decide)

end IsAllowed

lemma forall_isAllowed (ascii : cs.all isAscii = true) (allowed : cs.any isForbidden = false) :
    ∀ c ∈ cs, IsAllowed c := fun c mem =>
  ⟨List.all_eq_true.mp ascii c mem, Bool.eq_false_iff.mpr (List.any_eq_false.mp allowed c mem)⟩

lemma forall_isAllowed_mark : ∀ c ∈ mark, IsAllowed c :=
  forall_isAllowed (by decide) (by decide)

lemma allowed_of_encodedLabel? {text : List Char} {label : Label}
    (allowed : text.any isForbidden = false) (h : encodedLabel? text = some label) :
    ∀ c ∈ label.written, IsAllowed c := by
  unfold encodedLabel? at h
  split at h
  · cases h
  · rename_i short
    split at h
    · cases h
    · split at h
      · cases h
      · cases h
        rw [Bool.or_eq_true, not_or, Bool.not_eq_true, List.any_eq_false] at short
        have ascii : text.all isAscii = true :=
          List.all_eq_true.mpr fun c mem => by simpa using short.1 c mem
        exact List.forall_mem_append.mpr ⟨forall_isAllowed_mark, forall_isAllowed ascii allowed⟩

lemma allowed_of_label? {label : Label} (h : label? cs = some label) :
    ∀ c ∈ label.written, IsAllowed c := by
  unfold label? at h
  split at h
  · cases h
  · rename_i allowed
    have allowed := Bool.eq_false_iff.mpr allowed
    split at h
    · refine allowed_of_encodedLabel? ?_ h
      exact List.any_eq_false.mpr fun c mem =>
        List.any_eq_false.mp allowed c (List.mem_of_mem_drop mem)
    · split at h
      · rename_i ascii
        cases h
        exact forall_isAllowed ascii allowed
      · split at h
        · cases h
        · cases h
          have digits : ∀ value < Punycode.base, IsAllowed (Punycode.digit value) := by decide
          refine List.forall_mem_append.mpr ⟨forall_isAllowed_mark,
            Punycode.forall_mem_encode digits (by decide) fun c mem early => ?_⟩
          exact ⟨decide_eq_true early,
            Bool.eq_false_iff.mpr (List.any_eq_false.mp allowed c mem)⟩

lemma allowed_of_internationalName? {written : List Char} (h : internationalName? cs = some written) :
    ∀ c ∈ written, IsAllowed c := by
  unfold internationalName? at h
  simp only [Option.bind_eq_bind, Option.bind_eq_some_iff] at h
  obtain ⟨mapped, -, labels, read, h⟩ := h
  split at h
  · cases h
  · cases h
    refine List.forall_mem_intercalate (List.forall_mem_singleton.mpr (by decide)) fun part mem => ?_
    obtain ⟨label, mem', rfl⟩ := List.mem_map.mp mem
    obtain ⟨shown, -, shown_read⟩ := List.exists_of_mapM_eq_some read mem'
    exact allowed_of_label? shown_read

lemma allowed_of_isPlain (plain : isPlain cs = true) (allowed : cs.any isForbidden = false) :
    ∀ c ∈ cs, IsAllowed c := by
  rw [isPlain, Bool.and_eq_true] at plain
  exact forall_isAllowed plain.1 allowed

lemma toAscii?_eq_some_iff : toAscii? bs = some name ↔ ∃ s, Text.ofBytes? bs = some s ∧
    (if isPlain s.toList then plainName? s.toList else internationalName? s.toList) =
      some name.toList := by
  have unfolded : toAscii? bs = (Text.ofBytes? bs).bind fun s =>
      (if isPlain s.toList then plainName? s.toList else internationalName? s.toList).map
        String.ofList := by
    unfold toAscii?
    cases Text.ofBytes? bs with
    | none => rfl
    | some s =>
        dsimp only [Option.bind_eq_bind, Option.bind_some]
        split
        · cases plainName? s.toList <;> rfl
        · cases internationalName? s.toList <;> rfl
  rw [unfolded, Option.bind_eq_some_iff]
  refine exists_congr fun s => and_congr_right fun _ => ?_
  rw [Option.map_eq_some_iff]
  constructor
  · rintro ⟨cs, read, rfl⟩
    rw [read, String.toList_ofList]
  · exact fun read => ⟨name.toList, read, String.ofList_toList⟩

/-- **Whatever a name was read from, its ASCII form holds characters that names may hold only.** -/
theorem allowed_of_toAscii? (h : toAscii? bs = some name) : ∀ c ∈ name.toList, IsAllowed c := by
  obtain ⟨s, -, h⟩ := toAscii?_eq_some_iff.mp h
  split at h
  · rename_i plain
    unfold plainName? at h
    split at h
    · cases h
    · rename_i allowed
      rw [← Option.some.inj h]
      intro c mem
      obtain ⟨d, mem', rfl⟩ := List.mem_map.mp mem
      exact (allowed_of_isPlain plain (Bool.eq_false_iff.mpr allowed) d mem').toLower
  · exact allowed_of_internationalName? h

/-! ### Own forms -/

/-- The name is its own ASCII form. -/
def IsOwnForm (name : String) : Prop :=
  toAscii? (Text.bytes name) = some name

/-- A plain name in lower case is its own form. -/
lemma isOwnForm_of_lower (plain : isPlain name.toList = true)
    (allowed : name.toList.any isForbidden = false) (lower : ∀ c ∈ name.toList, c.toLower = c) :
    IsOwnForm name := by
  refine toAscii?_eq_some_iff.mpr ⟨name, Text.ofBytes?_bytes name, ?_⟩
  rw [if_pos plain, plainName?, if_neg (Bool.eq_false_iff.mp allowed), List.map_congr_left lower,
    List.map_id']

end Domain

end Federation
