import Federation.Constraints
import Mathlib.Data.List.Infix
import Mathlib.Tactic.Lemma

/-!
# Names are cut by subtrees

An identifier is under another one if it is the same or goes on after a slash.  Naming constraints list
roots of such subtrees.

**The order.**  `EntityId.isUnder_iff` reads the test as a prefix of lists.  The identifiers are a forest
(`EntityId.isForest_isUnder`): `isUnder` is a partial order, and two roots above one identifier are
comparable.  Nothing is asked of the texts, so ports, doubled slashes and slashes at the end make no
difference.

**Verdicts.**  `Constraints.checkNaming_eq_ok_iff` and `Constraints.checkNaming_eq_excluded_iff` say what is
accepted and what is refused as excluded; in the latter case the first root that covers the name is
reported.

**Subtrees.**  `Constraints.CutsSubtrees` collects how the verdicts on an identifier and on those under it
hang together, and `Constraints.cutsSubtrees` proves it of all constraints.
-/

namespace Federation

/-! ### The order -/

/-- A partial order in which all that is above one element is a chain. -/
structure IsForest {α : Type} (under : α → α → Prop) : Prop where
  refl : ∀ a, under a a
  antisymm : ∀ a b, under a b → under b a → a = b
  trans : ∀ a b c, under a b → under b c → under a c
  comparable : ∀ a b c, under a b → under a c → under b c ∨ under c b

namespace EntityId

variable {id other root root' : EntityId}

lemma text_toList_inj : id.text.toList = other.text.toList ↔ id = other := by
  cases id
  cases other
  simp [String.toList_inj]

/-- An identifier goes on with a slash where it is not the root itself. -/
lemma isUnder_iff :
    id.isUnder root = true ↔ id = root ∨ root.text.toList ++ ['/'] <+: id.text.toList := by
  simp [isUnder]

lemma isUnder_refl (id : EntityId) : id.isUnder id = true :=
  isUnder_iff.mpr (.inl rfl)

/-- The root of a subtree is not longer than what is in it. -/
lemma length_le_of_isUnder (h : id.isUnder root = true) :
    root.text.toList.length ≤ id.text.toList.length := by
  rcases isUnder_iff.mp h with rfl | goes_on
  · exact Nat.le_refl _
  · have length := goes_on.length_le
    rw [List.length_append] at length
    omega

lemma isUnder_antisymm (h : id.isUnder other = true) (h' : other.isUnder id = true) : id = other := by
  rcases isUnder_iff.mp h with same | goes_on
  · exact same
  · have longer := goes_on.length_le
    have not_longer := length_le_of_isUnder h'
    rw [List.length_append, List.length_singleton] at longer
    omega

lemma isUnder_trans (h : id.isUnder other = true) (h' : other.isUnder root = true) :
    id.isUnder root = true := by
  rcases isUnder_iff.mp h with rfl | goes_on
  · exact h'
  · rcases isUnder_iff.mp h' with rfl | goes_on'
    · exact h
    · refine isUnder_iff.mpr (.inr ?_)
      exact (goes_on'.trans (List.prefix_append _ _)).trans goes_on

/-- **Two roots above one identifier are comparable**: the shorter one ends at a slash of the longer
one. -/
lemma isUnder_or_isUnder (h : id.isUnder root = true) (h' : id.isUnder root' = true) :
    root.isUnder root' = true ∨ root'.isUnder root = true := by
  -- a root that goes on with a slash inside another one, and this slash, is above it
  have above : ∀ {p q : EntityId}, p.text.toList ++ ['/'] <+: q.text.toList ++ ['/'] →
      q.isUnder p = true := by
    intro p q inside
    rcases List.prefix_concat_iff.mp inside with same | inside
    · exact isUnder_iff.mpr (.inl (text_toList_inj.mp (List.append_cancel_right same).symm))
    · exact isUnder_iff.mpr (.inr inside)
  rcases isUnder_iff.mp h with rfl | goes_on
  · exact .inl h'
  · rcases isUnder_iff.mp h' with rfl | goes_on'
    · exact .inr h
    · exact (List.prefix_or_prefix_of_prefix goes_on goes_on').symm.imp above above

lemma isForest_isUnder : IsForest fun id root : EntityId => id.isUnder root = true where
  refl := isUnder_refl
  antisymm _ _ := isUnder_antisymm
  trans _ _ _ := isUnder_trans
  comparable _ _ _ := isUnder_or_isUnder

end EntityId

/-! ### Verdicts -/

namespace Constraints

variable {c : Constraints} {entity descendant root : EntityId}

/-- One of the permitted roots covers the identifier, if there is a list of them. -/
def Covers (c : Constraints) (entity : EntityId) : Prop :=
  ∀ roots, c.permitted = some roots → ∃ root ∈ roots, entity.isUnder root = true

/-- An identifier is refused as excluded exactly if an excluded root covers it, and then the first such
root is the one that is reported. -/
lemma checkNaming_eq_excluded_iff :
    c.checkNaming entity = .error (.excluded entity root) ↔
      (c.excluded.getD []).find? (fun root => entity.isUnder root) = some root := by
  unfold checkNaming
  split
  · rename_i found excludes
    rw [excludes]
    simp
  · rename_i none_excludes
    rw [none_excludes]
    split
    · simp
    · split
      · simp
      · simp

/-- Exactly what is permitted and not excluded is accepted. -/
lemma checkNaming_eq_ok_iff :
    c.checkNaming entity = .ok () ↔
      c.Covers entity ∧ ∀ root ∈ c.excluded.getD [], entity.isUnder root = false := by
  have excluded_iff : (c.excluded.getD []).find? (fun root => entity.isUnder root) = .none ↔
      ∀ root ∈ c.excluded.getD [], entity.isUnder root = false := by
    simp
  rw [← excluded_iff, checkNaming, Covers]
  split
  · rename_i excludes
    simp [excludes]
  · rename_i none_excludes
    split
    · rename_i unlimited
      simp [none_excludes, unlimited]
    · rename_i roots permitted
      simp [none_excludes, permitted]

/-! ### Subtrees -/

/-- How the verdicts on an identifier and on those under it hang together. -/
structure CutsSubtrees (c : Constraints) : Prop where
  /-- What is under an excluded identifier is excluded. -/
  excluded : ∀ (entity descendant root : EntityId), descendant.isUnder entity = true →
    c.checkNaming entity = .error (.excluded entity root) →
      ∃ root', c.checkNaming descendant = .error (.excluded descendant root')
  /-- What is under a covered identifier is covered. -/
  permitted : ∀ (entity descendant : EntityId) (roots : List EntityId),
    descendant.isUnder entity = true → c.permitted = some roots →
      (∃ root ∈ roots, entity.isUnder root = true) → ∃ root ∈ roots, descendant.isUnder root = true
  /-- What is accepted is under a permitted root, unless there is no list of them, and under no excluded
  one. -/
  accepts_iff : ∀ entity, c.checkNaming entity = .ok () ↔
    (c.permitted = .none ∨
      ∃ roots, c.permitted = some roots ∧ ∃ root ∈ roots, entity.isUnder root = true) ∧
    ∀ root ∈ c.excluded.getD [], entity.isUnder root = false
  /-- Between what is accepted and what is refused below it there is an excluded root, which is the one
  that is reported. -/
  between : ∀ (entity descendant : EntityId) (violation : ConstraintViolation),
    descendant.isUnder entity = true → c.checkNaming entity = .ok () →
      c.checkNaming descendant = .error violation →
        ∃ root ∈ c.excluded.getD [], violation = .excluded descendant root ∧
          root ≠ entity ∧ root.isUnder entity = true ∧ descendant.isUnder root = true

lemma exists_excluded (mem : root ∈ c.excluded.getD []) (covers : entity.isUnder root = true) :
    ∃ root', c.checkNaming entity = .error (.excluded entity root') := by
  simp only [checkNaming_eq_excluded_iff, ← Option.isSome_iff_exists, List.find?_isSome]
  exact ⟨root, mem, covers⟩

lemma Covers.of_under (covers : c.Covers entity) (below : descendant.isUnder entity = true) :
    c.Covers descendant := by
  intro roots permitted
  obtain ⟨root, mem, above⟩ := covers roots permitted
  exact ⟨root, mem, EntityId.isUnder_trans below above⟩

/-- What is permitted is accepted, or refused as excluded. -/
lemma exists_excluded_of_error {violation : ConstraintViolation} (covers : c.Covers entity)
    (refused : c.checkNaming entity = .error violation) :
    ∃ root ∈ c.excluded.getD [], violation = .excluded entity root ∧ entity.isUnder root = true := by
  have not_accepted : ¬ ∀ root ∈ c.excluded.getD [], entity.isUnder root = false := by
    intro none_excludes
    rw [checkNaming_eq_ok_iff.mpr ⟨covers, none_excludes⟩] at refused
    cases refused
  obtain ⟨root, excludes⟩ := Classical.not_forall.mp not_accepted
  obtain ⟨mem, under⟩ := Classical.not_imp.mp excludes
  obtain ⟨first, reported⟩ := exists_excluded mem (by simpa using under)
  have found := checkNaming_eq_excluded_iff.mp reported
  rw [reported] at refused
  cases refused
  exact ⟨first, List.mem_of_find?_eq_some found, rfl, List.find?_some found⟩

/-- **Naming constraints cut subtrees.**  The identifiers are a forest, in which excluded and permitted
roots rule over all that is under them. -/
theorem cutsSubtrees :
    IsForest (fun id root : EntityId => id.isUnder root = true) ∧
      ∀ c : Constraints, c.CutsSubtrees := by
  refine ⟨EntityId.isForest_isUnder, fun c => ?_⟩
  refine { excluded := ?_, permitted := ?_, accepts_iff := ?_, between := ?_ }
  · intro entity descendant root below refused
    have found := checkNaming_eq_excluded_iff.mp refused
    exact exists_excluded (List.mem_of_find?_eq_some found)
      (EntityId.isUnder_trans below (by simpa using List.find?_some found))
  · rintro entity descendant roots below _ ⟨root, mem, above⟩
    exact ⟨root, mem, EntityId.isUnder_trans below above⟩
  · intro entity
    rw [checkNaming_eq_ok_iff, Covers]
    cases c.permitted with
    | none => simp
    | some roots => simp
  · intro entity descendant violation below accepted refused
    obtain ⟨covers, none_excludes⟩ := checkNaming_eq_ok_iff.mp accepted
    obtain ⟨root, mem, reported, covered⟩ :=
      exists_excluded_of_error (covers.of_under below) refused
    have not_above : entity.isUnder root = false := none_excludes root mem
    refine ⟨root, mem, reported, ?_, ?_, covered⟩
    · rintro rfl
      rw [EntityId.isUnder_refl] at not_above
      cases not_above
    · rcases EntityId.isUnder_or_isUnder below covered with above | under
      · rw [above] at not_above
        cases not_above
      · exact under

/-- The east is excluded from what is permitted: an entity there is refused, its superiors are not. -/
theorem cutsSubtrees_east :
    let c : Constraints :=
      ⟨.none, some [⟨"https://example.com"⟩], some [⟨"https://example.com/org/east"⟩]⟩
    let entity : EntityId := ⟨"https://example.com/org"⟩
    let descendant : EntityId := ⟨"https://example.com/org/east//rp"⟩
    descendant.isUnder entity = true ∧ c.checkNaming entity = .ok () ∧
      c.checkNaming descendant = .error (.excluded descendant ⟨"https://example.com/org/east"⟩) ∧
      ∃ root ∈ c.excluded.getD [], root ≠ entity ∧ root.isUnder entity = true ∧
        descendant.isUnder root = true := by
  intro c entity descendant
  have below : descendant.isUnder entity = true := by decide
  have accepted : c.checkNaming entity = .ok () := by decide
  have refused : c.checkNaming descendant =
      .error (.excluded descendant ⟨"https://example.com/org/east"⟩) := by decide
  obtain ⟨root, mem, _, between⟩ :=
    (cutsSubtrees.2 c).between entity descendant _ below accepted refused
  exact ⟨below, accepted, refused, root, mem, between⟩

end Constraints

end Federation
