import Federation.Proofs.Policy.Combination
import Federation.Proofs.Policy.Settling

/-!
# What applying a policy ensures

A policy that has been applied leaves metadata that satisfy it, parameter by parameter.

**The operators of a combination.**  `Combined.operators` lists at most one operator of each kind, and
looking one up gives back what the combination holds.

**One parameter.**  `Operators.Satisfied` is what the operators of an entry ask of a parameter, present
or absent.  An entry that acts ensures it (`Operators.satisfied_of_apply`), and one that does not act
on an absent parameter asks for nothing (`Operators.satisfied_of_idle`).

**Policies.**  `Policy.satisfied_of_apply`: every entry settles its own parameter, and parameters without
an entry keep their value.

**Operators.**  `Operator.Met` says what a single operator asks of a parameter.  Metadata under a
combination that covers an operator meet it (`Operator.met_of_covers`).
-/

namespace Federation

/-! ### The operators of a combination -/

namespace Operators

lemma find?_append (operators further : Operators) (kind : Operator.Kind) :
    find? (operators ++ further) kind = (find? operators kind).or (find? further kind) :=
  List.find?_append

lemma find?_toList {α : Type} (make : α → Operator) (made : Operator.Kind) (value : Option α)
    (kind : Operator.Kind) (h : ∀ a, (make a).kind = made) :
    find? (value.map make).toList kind = if made = kind then value.map make else none := by
  cases value with
  | none => simp [find?]
  | some a => simp [find?, h]

lemma find?_unknown (unknown : Members Json) {kind : Operator.Kind} (h : .unknown ≠ kind) :
    find? (unknown.map fun (name, config) => Operator.unknown name config) kind = none := by
  rw [find?, List.find?_eq_none]
  intro op mem
  obtain ⟨entry, _, rfl⟩ := List.mem_map.mp mem
  simp [Operator.kind, h]

end Operators

namespace Combined

open Operators in
/-- Each kind is found where it was put. -/
lemma find?_operators (c : Combined) {kind : Operator.Kind} (known : .unknown ≠ kind) :
    c.operators.find? kind = c.held kind := by
  simp only [operators, find?_append, find?_unknown c.unknown known, Option.or_none, Option.or_assoc,
    find?_toList .value .value c.value kind fun _ => rfl,
    find?_toList (fun vs => .add (.many vs)) .add c.add kind fun _ => rfl,
    find?_toList .default .default c.default kind fun _ => rfl,
    find?_toList (fun vs => .oneOf (.many vs)) .oneOf c.oneOf kind fun _ => rfl,
    find?_toList (fun vs => .subsetOf (.many vs)) .subsetOf c.subsetOf kind fun _ => rfl,
    find?_toList (fun vs => .supersetOf (.many vs)) .supersetOf c.supersetOf kind fun _ => rfl,
    find?_toList .essential .essential c.essential kind fun _ => rfl]
  cases kind <;> simp [held] at known ⊢

lemma value?_operators (c : Combined) : c.operators.value? = c.value :=
  Option.ext fun v => by simp [c.operators.lookups.value, c.find?_operators, held]

lemma add?_operators (c : Combined) : c.operators.add? = c.add :=
  Option.ext fun values => by simp [c.operators.lookups.add, c.find?_operators, held, ValueList.values]

lemma default?_operators (c : Combined) : c.operators.default? = c.default :=
  Option.ext fun v => by simp [c.operators.lookups.default, c.find?_operators, held]

lemma oneOf?_operators (c : Combined) : c.operators.oneOf? = c.oneOf :=
  Option.ext fun values => by
    simp [c.operators.lookups.oneOf, c.find?_operators, held, ValueList.values]

lemma subsetOf?_operators (c : Combined) : c.operators.subsetOf? = c.subsetOf :=
  Option.ext fun values => by
    simp [c.operators.lookups.subsetOf, c.find?_operators, held, ValueList.values]

lemma supersetOf?_operators (c : Combined) : c.operators.supersetOf? = c.supersetOf :=
  Option.ext fun values => by
    simp [c.operators.lookups.supersetOf, c.find?_operators, held, ValueList.values]

lemma isEssential_operators (c : Combined) :
    c.operators.isEssential = c.essential.getD false := by
  have looked_up : c.operators.isEssential = true ↔ c.essential = some true := by
    simp [c.operators.lookups.essential, c.find?_operators, held]
  rw [Bool.eq_iff_iff, looked_up]
  cases c.essential with
  | none => simp
  | some required => simp

end Combined

/-! ### One parameter -/

namespace Operators

variable {operators : Operators} {current found : Option Json}

/-- What the operators of an entry ask of its parameter. -/
structure Satisfied (operators : Operators) (found : Option Json) : Prop where
  value : ∀ v, operators.value? = some v → found = if v.isNull then none else some v
  oneOf : ∀ allowed, operators.oneOf? = some allowed → ∀ w, found = some w →
    w.isArray = false ∧ allowed.contains w = true
  subsetOf : ∀ allowed, operators.subsetOf? = some allowed → ∀ w, found = some w →
    ∀ item ∈ w.asSet, allowed.contains item = true
  supersetOf : ∀ required, operators.supersetOf? = some required → ∀ w, found = some w →
    ∀ v ∈ required, w.asSet.contains v = true
  essential : operators.isEssential = true → found ≠ none

lemma supply_of_value {v : Json} (fixed : operators.value? = some v)
    (h : operators.supply current = .ok found) : found = if v.isNull then none else some v := by
  simp only [supply, fixed] at h
  cases h
  rfl

lemma checkOneOf_eq_ok_iff {value : Json} : operators.checkOneOf value = .ok () ↔
    ∀ allowed, operators.oneOf? = some allowed →
      value.isArray = false ∧ allowed.contains value = true := by
  unfold checkOneOf
  cases operators.oneOf? with
  | none => simp
  | some allowed =>
      by_cases array : value.isArray = true
      · simp [array]
      · by_cases contained : allowed.contains value = true
        · simp [array, contained]
        · simp [array, contained]

lemma checkSubsetOf_eq_ok_iff {value : Json} : operators.checkSubsetOf value = .ok () ↔
    ∀ allowed, operators.subsetOf? = some allowed →
      ∀ item ∈ value.asSet, allowed.contains item = true := by
  unfold checkSubsetOf
  cases operators.subsetOf? with
  | none => simp
  | some allowed =>
      dsimp only
      cases outside : value.asSet.find? fun item => !allowed.contains item with
      | none => simpa using List.find?_eq_none.mp outside
      | some extra =>
          have absent := List.find?_some outside
          have mem := List.mem_of_find?_eq_some outside
          simp only [reduceCtorEq, Option.some.injEq, forall_eq', false_iff]
          intro inside
          rw [inside extra mem] at absent
          cases absent

lemma checkSupersetOf_eq_ok_iff {value : Json} : operators.checkSupersetOf value = .ok () ↔
    ∀ required, operators.supersetOf? = some required →
      ∀ v ∈ required, value.asSet.contains v = true := by
  unfold checkSupersetOf
  cases operators.supersetOf? with
  | none => simp
  | some required =>
      have none_missing : (required.filter fun v => !value.asSet.contains v).isEmpty = true ↔
          ∀ v ∈ required, value.asSet.contains v = true := by
        simp [List.isEmpty_iff, List.filter_eq_nil_iff]
      dsimp only
      by_cases complete : ∀ v ∈ required, value.asSet.contains v = true
      · rw [if_pos (none_missing.mpr complete)]
        simpa using complete
      · rw [if_neg (mt none_missing.mp complete)]
        simpa using complete

/-- A value passes the checks if it is what each list asks for. -/
lemma check_eq_ok_iff {value : Json} : operators.check value = .ok () ↔
    operators.checkOneOf value = .ok () ∧ operators.checkSubsetOf value = .ok () ∧
      operators.checkSupersetOf value = .ok () := by
  rw [check, Except.bind_eq_ok_iff]
  constructor
  · rintro ⟨⟨⟩, one_of, checked⟩
    obtain ⟨⟨⟩, subset_of, superset_of⟩ := Except.bind_eq_ok_iff.mp checked
    exact ⟨one_of, subset_of, superset_of⟩
  · rintro ⟨one_of, subset_of, superset_of⟩
    exact ⟨(), one_of, Except.bind_eq_ok_iff.mpr ⟨(), subset_of, superset_of⟩⟩

/-- **An entry that acts ensures what it asks for.** -/
theorem satisfied_of_apply (h : operators.apply current = .ok found) :
    operators.Satisfied found := by
  obtain ⟨supplied, supply, h⟩ := Except.bind_eq_ok_iff.mp h
  cases supplied with
  | none =>
      dsimp only at h
      split at h
      · cases h
      · rename_i not_essential
        cases h
        exact
          { value := fun v fixed => supply_of_value fixed supply
            oneOf := fun _ _ w present => by cases present
            subsetOf := fun _ _ w present => by cases present
            supersetOf := fun _ _ w present => by cases present
            essential := fun asked => absurd asked not_essential }
  | some value =>
      obtain ⟨⟨⟩, checked, h⟩ := Except.bind_eq_ok_iff.mp h
      cases h
      obtain ⟨one_of, subset_of, superset_of⟩ := check_eq_ok_iff.mp checked
      exact
        { value := fun v fixed => supply_of_value fixed supply
          oneOf := fun allowed listed w present => by
            cases present
            exact checkOneOf_eq_ok_iff.mp one_of allowed listed
          subsetOf := fun allowed listed w present => by
            cases present
            exact checkSubsetOf_eq_ok_iff.mp subset_of allowed listed
          supersetOf := fun required listed w present => by
            cases present
            exact checkSupersetOf_eq_ok_iff.mp superset_of required listed
          essential := fun asked absent => by cases absent }

/-- An entry that does not act on an absent parameter has nothing against its absence. -/
lemma satisfied_of_idle (idle : operators.actsOnAbsent = false) : operators.Satisfied none := by
  rw [actsOnAbsent, List.any_eq_false] at idle
  refine
    { value := fun v fixed => ?_
      oneOf := fun _ _ w present => by cases present
      subsetOf := fun _ _ w present => by cases present
      supersetOf := fun _ _ w present => by cases present
      essential := fun asked => ?_ }
  · exact absurd rfl (idle _ (mem_of_value? fixed))
  · exact absurd rfl (idle _ (mem_of_isEssential asked))

lemma satisfied_of_settle (h : operators.settle current = .ok found) :
    operators.Satisfied found := by
  by_cases acts : operators.Acts current
  · rw [settle_of_acts acts] at h
    exact satisfied_of_apply h
  · rw [settle_of_idle acts] at h
    cases h
    exact satisfied_of_idle (Bool.eq_false_iff.mpr (not_or.mp acts).2)

end Operators

/-! ### Policies -/

namespace Policy

variable {metadata out : Members Json}

/-- What an entry makes of its parameter, no other entry changes. -/
lemma settled_of_apply {policy : Policy} {entry : String × Operators} {Q : Option Json → Prop}
    (distinct : policy.entries.Distinct) (h : policy.apply metadata = .ok out)
    (mem : entry ∈ policy.entries)
    (settles : ∀ before after, applyEntry before entry.1 entry.2 = .ok after →
      Q (after.get? entry.1)) :
    Q (out.get? entry.1) := by
  have settled := (settles_of_apply distinct h).entries entry mem
  have alone := settles metadata _ (applyEntry_eq_ok_iff.mpr ⟨_, settled, rfl⟩)
  rwa [Members.get?_assign_self] at alone

/-- **Every entry of an applied policy is satisfied**, and what has no entry is untouched. -/
theorem satisfied_of_apply {policy : Policy} (distinct : policy.entries.Distinct)
    (h : policy.apply metadata = .ok out) :
    (∀ entry ∈ policy.entries, entry.2.Satisfied (out.get? entry.1)) ∧
      ∀ other, other ∉ policy.entries.keys → out.get? other = metadata.get? other := by
  have settles := settles_of_apply distinct h
  exact ⟨fun entry mem => Operators.satisfied_of_settle (settles.entries entry mem), settles.others⟩

end Policy

/-! ### Single operators -/

lemma Json.isNull_eq_of_beq {a b : Json} (h : (a == b) = true) : a.isNull = b.isNull := by
  have same : a.same b = true := h
  cases a with
  | null =>
      cases b with
      | null => rfl
      | _ => cases same
  | _ =>
      cases b with
      | null => cases same
      | _ => rfl

namespace Operator

/-- What an operator asks of its parameter, present or absent.  The checks let it be absent, `add` and
`default` only supply values, and an operator that is not implemented asks for nothing. -/
def Met (found : Option Json) : Operator → Prop
  | .value v =>
    if v.isNull then found = none else ∃ w, found = some w ∧ (w = v ∨ (w == v) = true)
  | .oneOf list => ∀ w, found = some w → w.isArray = false ∧ list.values.contains w = true
  | .subsetOf list => ∀ w, found = some w → ∀ item ∈ w.asSet, list.values.contains item = true
  | .supersetOf list => ∀ w, found = some w → ∀ v ∈ list.values, w.asSet.contains v = true
  | .essential required => required = true → found ≠ none
  | .add _ => True
  | .default _ => True
  | .unknown _ _ => True

/-- **A covered operator is met** by what satisfies the combination. -/
theorem met_of_covers {c : Combined} {op : Operator} {found : Option Json} (covers : c.Covers op)
    (satisfied : c.operators.Satisfied found) : op.Met found := by
  cases op with
  | value v =>
      obtain ⟨fixed, is_fixed, equal⟩ := covers
      have settled := satisfied.value fixed (c.value?_operators.trans is_fixed)
      have null : fixed.isNull = v.isNull := by
        rcases equal with rfl | equal
        · rfl
        · exact Json.isNull_eq_of_beq equal
      rw [null] at settled
      rw [Met]
      split
      · rename_i is_null
        rw [settled, if_pos is_null]
      · rename_i not_null
        exact ⟨fixed, by rw [settled, if_neg not_null], equal⟩
  | oneOf list =>
      obtain ⟨allowed, running, within⟩ := covers
      intro w present
      obtain ⟨no_array, listed⟩ :=
        satisfied.oneOf allowed (c.oneOf?_operators.trans running) w present
      exact ⟨no_array, within w listed⟩
  | subsetOf list =>
      obtain ⟨allowed, running, within⟩ := covers
      intro w present item mem
      exact within item
        (satisfied.subsetOf allowed (c.subsetOf?_operators.trans running) w present item mem)
  | supersetOf list =>
      obtain ⟨required, running, suffices_for⟩ := covers
      intro w present
      exact suffices_for w.asSet
        (satisfied.supersetOf required (c.supersetOf?_operators.trans running) w present)
  | essential required =>
      intro asked
      refine satisfied.essential ?_
      rw [c.isEssential_operators, covers asked]
      rfl
  | _ => trivial

end Operator

end Federation
