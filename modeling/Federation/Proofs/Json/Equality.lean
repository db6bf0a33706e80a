import Federation.Json.Basic
import Federation.Proofs.Members
import Mathlib.Data.List.Perm.Subperm

/-!
# Equality of JSON values

`==` on JSON values takes the members of an object in any order and the two float zeros as one number.
It is coarser than `=`, so what is known of a value must be carried along it by hand.

**Transitivity.**  `Json.beq_trans` holds of all values, also of objects that repeat a name.

**Symmetry and reflexivity.**  `Json.beq_symm` and `Json.beq_refl` hold of well-formed values only: the
members of an object that repeats a name can all be in another one that has further members, and of two
members of one name only the first is found.

**Lists.**  A list contains a value if it contains an equal one (`Json.contains_of_beq`).
-/

namespace Federation

lemma Number.same_trans {a b c : Number} (h : a.same b = true) (h' : b.same c = true) :
    a.same c = true := by
  cases a with
  | integer x =>
      cases b with
      | integer y =>
          cases c with
          | integer z =>
              simp only [same, beq_iff_eq] at h h' ⊢
              exact h.trans h'
          | float z => cases h'
      | float y => cases h
  | float x =>
      cases b with
      | integer y => cases h
      | float y =>
          cases c with
          | integer z => cases h'
          | float z =>
              simp only [same, Binary64.sameNumber, Binary64.isZero, Bool.and_eq_true, beq_iff_eq,
                Bool.or_eq_true] at h h' ⊢
              obtain ⟨magnitude, sign⟩ := h
              obtain ⟨magnitude', sign'⟩ := h'
              refine ⟨magnitude.trans magnitude', ?_⟩
              rcases sign with sign | zero
              · rcases sign' with sign' | zero'
                · exact .inl (sign.trans sign')
                · exact .inr (magnitude.trans zero')
              · exact .inr zero

lemma Number.same_symm {a b : Number} (h : a.same b = true) : b.same a = true := by
  cases a with
  | integer x =>
      cases b with
      | integer y =>
          simp only [same, beq_iff_eq] at h ⊢
          exact h.symm
      | float y => cases h
  | float x =>
      cases b with
      | integer y => cases h
      | float y =>
          simp only [same, Binary64.sameNumber, Binary64.isZero, Bool.and_eq_true, beq_iff_eq,
            Bool.or_eq_true] at h ⊢
          obtain ⟨magnitude, sign⟩ := h
          refine ⟨magnitude.symm, ?_⟩
          rcases sign with sign | zero
          · exact .inl sign.symm
          · exact .inr (magnitude ▸ zero)

lemma Number.same_refl (a : Number) : a.same a = true := by
  cases a with
  | integer x => simp [same]
  | float x => simp [same, Binary64.sameNumber]

namespace Json

/-- A member that is found has an equal counterpart. -/
lemma get?_of_sameMembers {as : List (String × Json)} {bs : Members Json} {name : String} {a : Json}
    (h : sameMembers as bs = true) (mem : (name, a) ∈ as) :
    ∃ b, bs.get? name = some b ∧ same a b = true := by
  induction as with
  | nil => cases mem
  | cons entry rest ih =>
      rw [sameMembers, Bool.and_eq_true] at h
      obtain ⟨here, later⟩ := h
      rcases List.mem_cons.mp mem with rfl | mem
      · dsimp only at here
        split at here
        · rename_i b found
          exact ⟨b, found, here⟩
        · cases here
      · exact ih later mem

mutual

lemma same_trans : ∀ {a b c : Json}, same a b = true → same b c = true → same a c = true
  | .null, .null, .null, _, _ => rfl
  | .boolean x, .boolean y, .boolean z, h, h' => by
      simp only [same, beq_iff_eq] at h h' ⊢
      exact h.trans h'
  | .number x, .number y, .number z, h, h' => by
      simp only [same] at h h' ⊢
      exact Number.same_trans h h'
  | .string x, .string y, .string z, h, h' => by
      simp only [same, beq_iff_eq] at h h' ⊢
      exact h.trans h'
  | .array as, .array bs, .array cs, h, h' => by
      simp only [same] at h h' ⊢
      exact sameItems_trans h h'
  | .object as, .object bs, .object cs, h, h' => by
      simp only [same, Bool.and_eq_true, beq_iff_eq] at h h' ⊢
      exact ⟨h.1.trans h'.1, sameMembers_trans h.2 h'.2⟩

lemma sameItems_trans : ∀ {as bs cs : List Json}, sameItems as bs = true →
    sameItems bs cs = true → sameItems as cs = true
  | [], [], [], _, _ => rfl
  | a :: as, b :: bs, c :: cs, h, h' => by
      simp only [sameItems, Bool.and_eq_true] at h h' ⊢
      exact ⟨same_trans h.1 h'.1, sameItems_trans h.2 h'.2⟩

lemma sameMembers_trans : ∀ {as : List (String × Json)} {bs cs : Members Json},
    sameMembers as bs = true → sameMembers bs cs = true → sameMembers as cs = true
  | [], _, _, _, _ => rfl
  | (name, a) :: as, bs, cs, h, h' => by
      obtain ⟨b, found, equal⟩ := get?_of_sameMembers h List.mem_cons_self
      obtain ⟨c, found', equal'⟩ := get?_of_sameMembers h' (Members.mem_of_get? found)
      simp only [sameMembers, Bool.and_eq_true] at h ⊢
      rw [found']
      exact ⟨same_trans equal equal', sameMembers_trans h.2 h'⟩

end

/-- **Equality of values is transitive.** -/
theorem beq_trans {a b c : Json} (h : (a == b) = true) (h' : (b == c) = true) : (a == c) = true :=
  same_trans h h'

/-! ### Symmetry -/

lemma allMembersWellFormed_iff {members : List (String × Json)} :
    AllMembersWellFormed members ↔ ∀ entry ∈ members, entry.2.WellFormed := by
  induction members with
  | nil => simp [AllMembersWellFormed]
  | cons entry rest ih => simp [AllMembersWellFormed, ih]

lemma allWellFormed_iff {items : List Json} :
    AllWellFormed items ↔ ∀ item ∈ items, item.WellFormed := by
  induction items with
  | nil => simp [AllWellFormed]
  | cons item rest ih => simp [AllWellFormed, ih]

lemma wellFormed_of_get? {members : Members Json} {name : String} {v : Json}
    (wellFormed : (Json.object members).WellFormed) (found : members.get? name = some v) :
    v.WellFormed :=
  allMembersWellFormed_iff.mp wellFormed.2 (name, v) (Members.mem_of_get? found)

lemma keys_subset_of_sameMembers {as : List (String × Json)} {bs : Members Json}
    (h : sameMembers as bs = true) : Members.keys as ⊆ Members.keys bs := by
  intro name named
  obtain ⟨⟨key, a⟩, mem, rfl⟩ := List.mem_map.mp named
  obtain ⟨b, found, equal⟩ := get?_of_sameMembers h mem
  exact List.mem_map.mpr ⟨(key, b), Members.mem_of_get? found, rfl⟩

lemma sameMembers_iff {as : List (String × Json)} {bs : Members Json} :
    sameMembers as bs = true ↔
      ∀ entry ∈ as, ∃ b, bs.get? entry.1 = some b ∧ same entry.2 b = true := by
  induction as with
  | nil => simp [sameMembers]
  | cons entry rest ih =>
      obtain ⟨name, a⟩ := entry
      rw [sameMembers, Bool.and_eq_true, ih, List.forall_mem_cons]
      cases found : bs.get? name with
      | none => simp
      | some b => simp

/-- If two lists of distinct names are of one length and all names of the first are in the second, then
so the other way round. -/
lemma keys_subset_of_length {as bs : Members Json} (distinct : as.Distinct)
    (sameLength : as.length = bs.length) (subset : as.keys ⊆ bs.keys) : bs.keys ⊆ as.keys := by
  have perm : as.keys.Perm bs.keys :=
    (List.subperm_of_subset distinct subset).perm_of_length_le (by simp [Members.keys, sameLength])
  exact perm.symm.subset

mutual

lemma same_symm : ∀ {a b : Json}, a.WellFormed → b.WellFormed → same a b = true → same b a = true
  | .null, .null, _, _, _ => rfl
  | .boolean x, .boolean y, _, _, h => by
      simp only [same, beq_iff_eq] at h ⊢
      exact h.symm
  | .number x, .number y, _, _, h => by
      simp only [same] at h ⊢
      exact Number.same_symm h
  | .string x, .string y, _, _, h => by
      simp only [same, beq_iff_eq] at h ⊢
      exact h.symm
  | .array as, .array bs, wf, wf', h => by
      simp only [same, WellFormed] at wf wf' h ⊢
      exact sameItems_symm wf wf' h
  | .object as, .object bs, wf, wf', h => by
      simp only [same, Bool.and_eq_true, beq_iff_eq, WellFormed] at wf wf' h ⊢
      obtain ⟨distinct, members⟩ := wf
      obtain ⟨distinct', members'⟩ := wf'
      refine ⟨h.1.symm, sameMembers_iff.mpr fun entry mem => ?_⟩
      have subset : Members.keys bs ⊆ Members.keys as :=
        keys_subset_of_length distinct h.1 (keys_subset_of_sameMembers h.2)
      obtain ⟨⟨name, a⟩, mem', named⟩ := List.mem_map.mp (subset (List.mem_map_of_mem mem))
      cases named
      exact ⟨a, Members.get?_of_mem distinct mem',
        same_of_sameMembers members (allMembersWellFormed_iff.mp members' entry mem) h.2 mem'
          (Members.get?_of_mem distinct' mem)⟩

lemma sameItems_symm : ∀ {as bs : List Json}, AllWellFormed as → AllWellFormed bs →
    sameItems as bs = true → sameItems bs as = true
  | [], [], _, _, _ => rfl
  | a :: as, b :: bs, wf, wf', h => by
      simp only [sameItems, Bool.and_eq_true, AllWellFormed] at wf wf' h ⊢
      exact ⟨same_symm wf.1 wf'.1 h.1, sameItems_symm wf.2 wf'.2 h.2⟩

/-- The counterpart of a member equals it. -/
lemma same_of_sameMembers : ∀ {as : List (String × Json)} {bs : Members Json} {name : String}
    {a b : Json}, AllMembersWellFormed as → b.WellFormed → sameMembers as bs = true →
    (name, a) ∈ as → bs.get? name = some b → same b a = true
  | [], _, _, _, _, _, _, _, mem, _ => by cases mem
  | (name', a') :: as, bs, name, a, b, wf, wf', h, mem, found => by
      simp only [AllMembersWellFormed] at wf
      rcases List.mem_cons.mp mem with here | mem
      · cases here
        obtain ⟨b', found', equal⟩ := get?_of_sameMembers h List.mem_cons_self
        rw [found] at found'
        cases found'
        exact same_symm wf.1 wf' equal
      · simp only [sameMembers, Bool.and_eq_true] at h
        exact same_of_sameMembers wf.2 wf' h.2 mem found

end

/-- **Equality of well-formed values is symmetric.**  Of two objects that repeat names one may have the
members of the other but not the other way round. -/
theorem beq_symm {a b : Json} (wellFormed : a.WellFormed) (wellFormed' : b.WellFormed)
    (h : (a == b) = true) : (b == a) = true :=
  same_symm wellFormed wellFormed' h

/-! ### Reflexivity -/

mutual

lemma same_refl : ∀ {a : Json}, a.WellFormed → same a a = true
  | .null, _ => rfl
  | .boolean x, _ => by simp [same]
  | .number x, _ => by
      simp only [same]
      exact Number.same_refl x
  | .string x, _ => by simp [same]
  | .array items, wf => by
      simp only [same, WellFormed] at wf ⊢
      exact sameItems_refl wf
  | .object members, wf => by
      simp only [same, WellFormed, beq_self_eq_true, Bool.true_and] at wf ⊢
      exact sameMembers_iff.mpr fun entry mem =>
        ⟨entry.2, Members.get?_of_mem wf.1 mem, same_refl_of_mem wf.2 mem⟩

lemma sameItems_refl : ∀ {items : List Json}, AllWellFormed items → sameItems items items = true
  | [], _ => rfl
  | item :: rest, wf => by
      simp only [sameItems, Bool.and_eq_true, AllWellFormed] at wf ⊢
      exact ⟨same_refl wf.1, sameItems_refl wf.2⟩

lemma same_refl_of_mem : ∀ {members : List (String × Json)} {entry : String × Json},
    AllMembersWellFormed members → entry ∈ members → same entry.2 entry.2 = true
  | [], _, _, mem => by cases mem
  | (name, value) :: rest, entry, wf, mem => by
      simp only [AllMembersWellFormed] at wf
      rcases List.mem_cons.mp mem with rfl | mem
      · exact same_refl wf.1
      · exact same_refl_of_mem wf.2 mem

end

/-- **A well-formed value equals itself.** -/
theorem beq_refl {a : Json} (wellFormed : a.WellFormed) : (a == a) = true :=
  same_refl wellFormed

/-- Objects that have the same members in another order are equal. -/
lemma object_beq_of_perm {as bs : Members Json} (wellFormed : (Json.object bs).WellFormed)
    (perm : as.Perm bs) : (Json.object as == Json.object bs) = true := by
  show same (.object as) (.object bs) = true
  simp only [same, Bool.and_eq_true, beq_iff_eq]
  refine ⟨perm.length_eq, sameMembers_iff.mpr fun entry mem => ?_⟩
  have mem' : entry ∈ bs := perm.mem_iff.mp mem
  exact ⟨entry.2, Members.get?_of_mem wellFormed.1 mem', same_refl_of_mem wellFormed.2 mem'⟩

/-! ### Lists -/

/-- What a list contains depends on a value only up to equality. -/
lemma contains_of_beq {values : List Json} {a b : Json} (h : (a == b) = true)
    (contained : values.contains b = true) : values.contains a = true := by
  rw [List.contains_iff_exists_mem_beq] at contained ⊢
  obtain ⟨c, mem, equal⟩ := contained
  exact ⟨c, mem, beq_trans h equal⟩

end Json

end Federation
