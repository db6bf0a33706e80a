import Federation.Text.Blank
import Mathlib.Data.List.Basic
import Mathlib.Tactic.Lemma

/-!
# Characters that can be seen

Texts in ASCII without blanks and control characters.  `Graphic` is kept by whatever puts texts together,
and numbers are written in such characters.
-/

namespace Federation

/-- What holds of separators and parts holds of what they are joined to. -/
lemma List.forall_mem_intercalate {P : Char → Prop} {separator : List Char} {parts : List (List Char)}
    (between : ∀ c ∈ separator, P c) (each : ∀ part ∈ parts, ∀ c ∈ part, P c) :
    ∀ c ∈ List.intercalate separator parts, P c := by
  induction parts with
  | nil => exact List.forall_mem_nil P
  | cons part rest ih =>
      obtain ⟨here, later⟩ := List.forall_mem_cons.mp each
      cases rest with
      | nil => simpa [List.intercalate] using here
      | cons next more =>
          rw [List.intercalate_cons_of_ne_nil (by simp)]
          exact List.forall_mem_append.mpr ⟨List.forall_mem_append.mpr ⟨here, between⟩, ih later⟩

lemma forall_mem_intercalate_text {P : Char → Prop} {separator : String} {parts : List String}
    (between : ∀ c ∈ separator.toList, P c) (each : ∀ part ∈ parts, ∀ c ∈ part.toList, P c) :
    ∀ c ∈ (String.intercalate separator parts).toList, P c := by
  rw [String.toList_intercalate]
  refine List.forall_mem_intercalate between fun part mem => ?_
  obtain ⟨s, mem', rfl⟩ := List.mem_map.mp mem
  exact each s mem'

/-- A character in ASCII that is neither a blank nor a control character. -/
def IsGraphic (c : Char) : Prop :=
  0x20 < c.toNat ∧ c.toNat < 0x7F

instance (c : Char) : Decidable (IsGraphic c) :=
  inferInstanceAs (Decidable (_ ∧ _))

namespace IsGraphic

variable {c : Char}

lemma isBlank_eq_false (h : IsGraphic c) : Text.isBlank c = false := by
  obtain ⟨low, high⟩ := h
  simp only [Text.isBlank, Bool.or_eq_false_iff, Bool.and_eq_false_iff, decide_eq_false_iff_not,
    beq_eq_false_iff_ne]
  omega

lemma isControl_eq_false (h : IsGraphic c) : Text.isControl c = false := by
  obtain ⟨low, high⟩ := h
  simp only [Text.isControl, Bool.or_eq_false_iff, Bool.and_eq_false_iff, decide_eq_false_iff_not]
  omega

/-- There are few such characters, so they can be tried one by one. -/
@[elab_as_elim]
lemma of_listed {P Q : Char → Prop} (h : IsGraphic c) (known : P c)
    (listed : ∀ n < 0x7F, P (Char.ofNat n) → Q (Char.ofNat n)) : Q c := by
  have here := listed c.toNat h.2
  rw [Char.ofNat_toNat] at here
  exact here known

lemma of_isAlphanum (h : c.isAlphanum = true) : IsGraphic c := by
  have ranges : ((decide (c.val ≥ 65 ∧ c.val ≤ 90) ||
      (decide (c.val ≥ 97) && decide (c.val ≤ 122))) ||
      (decide (c.val ≥ 48) && decide (c.val ≤ 57))) = true := h
  simp only [Bool.or_eq_true, Bool.and_eq_true, decide_eq_true_eq, ge_iff_le,
    UInt32.le_iff_toNat_le] at ranges
  change ((65 ≤ c.toNat ∧ c.toNat ≤ 90) ∨ (97 ≤ c.toNat ∧ c.toNat ≤ 122)) ∨
    (48 ≤ c.toNat ∧ c.toNat ≤ 57) at ranges
  unfold IsGraphic
  omega

lemma of_isDigit (h : c.isDigit = true) : IsGraphic c :=
  .of_isAlphanum (by rw [Char.isAlphanum, h, Bool.or_true])

end IsGraphic

/-- All characters can be seen. -/
def Graphic (cs : List Char) : Prop :=
  ∀ c ∈ cs, IsGraphic c

instance (cs : List Char) : Decidable (Graphic cs) :=
  List.decidableBAll IsGraphic cs

section

variable {cs ds : List Char} {c : Char}

@[simp] lemma graphic_nil : Graphic [] :=
  fun _ mem => absurd mem List.not_mem_nil

@[simp] lemma graphic_cons_iff : Graphic (c :: cs) ↔ IsGraphic c ∧ Graphic cs :=
  List.forall_mem_cons

@[simp] lemma graphic_append_iff : Graphic (cs ++ ds) ↔ Graphic cs ∧ Graphic ds :=
  List.forall_mem_append

lemma Graphic.sublist (h : Graphic ds) (within : cs.Sublist ds) : Graphic cs :=
  fun c mem => h c (within.subset mem)

lemma graphic_intercalate_text {separator : String} {parts : List String}
    (between : Graphic separator.toList) (each : ∀ part ∈ parts, Graphic part.toList) :
    Graphic (String.intercalate separator parts).toList :=
  forall_mem_intercalate_text between each

lemma toList_toString (n : Nat) : (toString n).toList = Nat.toDigits 10 n := by
  rw [Nat.toString_eq_repr, Nat.repr_eq_ofList_toDigits, String.toList_ofList]

lemma graphic_toString (n : Nat) : Graphic (toString n).toList := by
  rw [toList_toString]
  exact fun c mem => .of_isDigit (Nat.isDigit_of_mem_toDigits (by decide) (by decide) mem)

end

end Federation
