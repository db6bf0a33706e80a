import Federation.Proofs.Policy.Batch
import Federation.Proofs.Policy.Pointwise

/-!
# Policies that only check

A policy without `value`, `add` and `default` changes nothing: it accepts metadata or refuses them.
Combining such policies is taking them together, neither more nor less.

**Operators.**  `Operator.IsCheck` singles these operators out, and `Operator.Met` says what each of them
asks of its parameter.

**One entry.**  An entry of checks leaves its parameter alone and succeeds if all its operators are met
(`Operators.settle_eq_ok_iff_met`).  No two of them may have one name, since applying an entry looks at the
first operator of a kind only.

**What checks come to.**  A value that is in all lists is in what they have in common, a set that holds
what is required by each holds what is required by all, and so on for every kind:
`Operators.forall_met_batch_iff` says that what operators come to asks for what they ask for.

**Policies.**  `Policy.apply_eq_ok_iff_meets` turns applying a policy of checks into a condition on the
metadata, and `Policy.conjunction_of_combine` is the result about combined policies.
-/

namespace Federation

/-! ### Operators -/

namespace Operator

/-- The operator supplies nothing. -/
def IsCheck (op : Operator) : Prop :=
  op.kind ≠ .value ∧ op.kind ≠ .add ∧ op.kind ≠ .default

instance : DecidablePred IsCheck := fun _ => inferInstanceAs (Decidable (_ ∧ _ ∧ _))

end Operator

/-- The items of a well-formed value are well-formed. -/
lemma Json.wellFormed_asSet {w : Json} (wellFormed : w.WellFormed) :
    ∀ item ∈ w.asSet, item.WellFormed := by
  cases w with
  | array items => exact Json.allWellFormed_iff.mp wellFormed
  | _ =>
      intro item mem
      cases List.mem_singleton.mp mem
      exact wellFormed

/-- A set holds what some lists unite to if it holds each of them. -/
lemma forall_mem_union_iff {lists : List (List Json)} {set : List Json} :
    (∀ v ∈ union lists, set.contains v = true) ↔
      ∀ list ∈ lists, ∀ v ∈ list, set.contains v = true := by
  have united : union lists = unite [] lists.flatten := by
    rw [union, unite_eq_enlist, List.enlist_nil_left]
  rw [united]
  constructor
  · intro holds list mem v v_mem
    exact contains_of_unite holds v (List.mem_flatten.mpr ⟨list, mem, v_mem⟩)
  · intro holds v mem
    obtain ⟨list, list_mem, v_mem⟩ := List.mem_flatten.mp (by simpa using unite_subset _ _ mem)
    exact holds list list_mem v v_mem

/-! ### One entry -/

namespace Operators

variable {operators : Operators} {op : Operator} {current found : Option Json}

/-- All operators of the entry are checks. -/
def AreChecks (operators : Operators) : Prop :=
  ∀ op ∈ operators, op.IsCheck

instance : DecidablePred AreChecks := fun operators =>
  inferInstanceAs (Decidable (∀ op ∈ operators, op.IsCheck))

lemma AreChecks.value? (checks : operators.AreChecks) : operators.value? = none :=
  Option.eq_none_iff_forall_ne_some.mpr fun _ fixed => (checks _ (mem_of_value? fixed)).1 rfl

lemma AreChecks.add? (checks : operators.AreChecks) : operators.add? = none := by
  refine Option.eq_none_iff_forall_ne_some.mpr fun values adds => ?_
  obtain ⟨list, _, mem⟩ := exists_of_add? adds
  exact (checks _ mem).2.1 rfl

lemma AreChecks.default? (checks : operators.AreChecks) : operators.default? = none :=
  Option.eq_none_iff_forall_ne_some.mpr fun _ fills => (checks _ (mem_of_default? fills)).2.2 rfl

/-- Checks supply nothing. -/
lemma AreChecks.supply (checks : operators.AreChecks) : operators.supply current = .ok current := by
  simp only [Operators.supply, checks.value?, checks.add?, checks.default?]
  cases current with
  | none => rfl
  | some w => rfl

/-- An entry of checks leaves its parameter alone, if it is satisfied with it. -/
lemma settle_eq_ok_iff (checks : operators.AreChecks) :
    operators.settle current = .ok found ↔ found = current ∧ operators.Satisfied current := by
  constructor
  · intro settled
    have same : found = current := by
      rw [settle] at settled
      split at settled
      · exact (Except.ok.inj settled).symm
      · have supplied := supply_of_apply settled
        rw [checks.supply] at supplied
        exact (Except.ok.inj supplied).symm
    exact ⟨same, same ▸ satisfied_of_settle settled⟩
  · rintro ⟨rfl, satisfied⟩
    have applied : operators.apply found = .ok found := by
      rw [apply, checks.supply]
      cases found with
      | none =>
          have optional : ¬ operators.isEssential = true := fun asked => satisfied.essential asked rfl
          show (if operators.isEssential then _ else _) = _
          rw [if_neg optional]
          rfl
      | some w =>
          have passed : operators.check w = .ok () := check_eq_ok_iff.mpr
            ⟨checkOneOf_eq_ok_iff.mpr fun allowed given => satisfied.oneOf allowed given w rfl,
              checkSubsetOf_eq_ok_iff.mpr fun allowed given => satisfied.subsetOf allowed given w rfl,
              checkSupersetOf_eq_ok_iff.mpr fun required asked =>
                satisfied.supersetOf required asked w rfl⟩
          show (operators.check w >>= fun _ => .ok (some w)) = _
          rw [passed]
          rfl
    -- the entry may not act on an absent parameter, and then it is not applied at all
    rw [settle]
    split
    · rfl
    · exact applied

/-- In a regular entry every operator is the first one of its kind, there being no other. -/
lemma Regular.find?_of_mem (regular : operators.Regular) (mem : op ∈ operators)
    (known : op.kind ≠ .unknown) : operators.find? op.kind = some op := by
  cases located : operators.find? op.kind with
  | none =>
      have differs := List.find?_eq_none.mp located op mem
      simp at differs
  | some other =>
      have other_mem := List.mem_of_find?_eq_some located
      have kind : other.kind = op.kind := by simpa using List.find?_some located
      have named : other.name = op.name := by
        rw [Operator.name_of_kind_ne known, Operator.name_of_kind_ne (kind ▸ known), kind]
      rw [List.inj_on_of_nodup_map regular.names other_mem mem named]

/-- **An entry of checks is satisfied if all its operators are met.** -/
lemma satisfied_iff_met (regular : operators.Regular) (checks : operators.AreChecks) :
    operators.Satisfied found ↔ ∀ op ∈ operators, op.Met found := by
  constructor
  · intro satisfied op mem
    have located := regular.find?_of_mem mem
    cases op with
    | oneOf list =>
        exact satisfied.oneOf _ (operators.lookups.oneOf.mpr ⟨list, rfl, located nofun⟩)
    | subsetOf list =>
        exact satisfied.subsetOf _ (operators.lookups.subsetOf.mpr ⟨list, rfl, located nofun⟩)
    | supersetOf list =>
        exact satisfied.supersetOf _
          (operators.lookups.supersetOf.mpr ⟨list, rfl, located nofun⟩)
    | essential required =>
        rintro rfl
        exact satisfied.essential (operators.lookups.essential.mpr (located nofun))
    | value v => exact absurd rfl (checks _ mem).1
    | _ => trivial
  · intro met
    refine
      { value := fun v fixed => ?_
        oneOf := fun allowed given => ?_
        subsetOf := fun allowed given => ?_
        supersetOf := fun required asked => ?_
        essential := fun asked => ?_ }
    · rw [checks.value?] at fixed
      cases fixed
    · obtain ⟨list, rfl, mem⟩ := exists_of_oneOf? given
      exact met _ mem
    · obtain ⟨list, rfl, mem⟩ := exists_of_subsetOf? given
      exact met _ mem
    · obtain ⟨list, rfl, mem⟩ := exists_of_supersetOf? asked
      exact met _ mem
    · exact met _ (mem_of_isEssential asked) rfl

lemma settle_eq_ok_iff_met (regular : operators.Regular) (checks : operators.AreChecks) :
    operators.settle current = .ok found ↔ found = current ∧ ∀ op ∈ operators, op.Met current := by
  rw [settle_eq_ok_iff checks, satisfied_iff_met regular checks]

/-! ### What checks come to -/

section Lists

variable {lists : List (List Json)}

/-- A value is one of what some lists have in common if it is one of each. -/
lemma met_oneOf_iff (some_given : lists ≠ []) (listed : ∀ list ∈ lists, ∀ v ∈ list, v.WellFormed)
    (wellFormed : ∀ w, found = some w → w.WellFormed) :
    (Operator.oneOf (.many (intersection lists))).Met found ↔
      ∀ list ∈ lists, (Operator.oneOf (.many list)).Met found := by
  have common := fun w present =>
    contains_intersection_iff some_given listed (wellFormed w present)
  constructor
  · intro met list mem w present
    obtain ⟨single, contained⟩ := met w present
    exact ⟨single, (common w present).mp contained list mem⟩
  · intro met w present
    obtain ⟨first, first_mem⟩ := List.exists_mem_of_ne_nil lists some_given
    exact ⟨(met first first_mem w present).1,
      (common w present).mpr fun list mem => (met list mem w present).2⟩

/-- Items are inside what some lists have in common if they are inside each. -/
lemma met_subsetOf_iff (some_given : lists ≠ []) (listed : ∀ list ∈ lists, ∀ v ∈ list, v.WellFormed)
    (wellFormed : ∀ w, found = some w → w.WellFormed) :
    (Operator.subsetOf (.many (intersection lists))).Met found ↔
      ∀ list ∈ lists, (Operator.subsetOf (.many list)).Met found := by
  have common := fun w present item mem =>
    contains_intersection_iff some_given listed (Json.wellFormed_asSet (wellFormed w present) item mem)
  constructor
  · intro met list mem w present item item_mem
    exact (common w present item item_mem).mp (met w present item item_mem) list mem
  · intro met w present item item_mem
    exact (common w present item item_mem).mpr fun list mem => met list mem w present item item_mem

/-- Nothing of what some lists unite to is lacking if nothing of each is. -/
lemma met_supersetOf_iff : (Operator.supersetOf (.many (union lists))).Met found ↔
    ∀ list ∈ lists, (Operator.supersetOf (.many list)).Met found := by
  constructor
  · intro met list mem w present
    exact forall_mem_union_iff.mp (met w present) list mem
  · intro met w present
    exact forall_mem_union_iff.mpr fun list mem => met list mem w present

/-- The lists of a kind are those of the operators of this kind. -/
lemma mem_filterMap_iff {part : Operator → Option (List Json)} {make : ValueList → Operator}
    {values : List Json}
    (parts : ∀ op, part op = some values ↔ ∃ list, list.values = values ∧ make list = op) :
    values ∈ operators.filterMap part ↔ ∃ list, list.values = values ∧ make list ∈ operators := by
  rw [List.mem_filterMap]
  constructor
  · rintro ⟨op, mem, given⟩
    obtain ⟨list, same, rfl⟩ := (parts op).mp given
    exact ⟨list, same, mem⟩
  · rintro ⟨list, same, mem⟩
    exact ⟨make list, mem, (parts _).mpr ⟨list, same, rfl⟩⟩

lemma mem_oneOfs {values : List Json} :
    values ∈ operators.oneOfs ↔ ∃ list, list.values = values ∧ .oneOf list ∈ operators :=
  mem_filterMap_iff fun op => by cases op <;> simp

lemma mem_subsetOfs {values : List Json} :
    values ∈ operators.subsetOfs ↔ ∃ list, list.values = values ∧ .subsetOf list ∈ operators :=
  mem_filterMap_iff fun op => by cases op <;> simp

lemma mem_supersetOfs {values : List Json} :
    values ∈ operators.supersetOfs ↔ ∃ list, list.values = values ∧ .supersetOf list ∈ operators :=
  mem_filterMap_iff fun op => by cases op <;> simp

end Lists

/-- A parameter is essential if one operator says so. -/
lemma essential_batch_iff : (batch operators).essential = some true ↔ .essential true ∈ operators := by
  have listed : true ∈ operators.essentials ↔ .essential true ∈ operators := by
    rw [essentials, List.mem_filterMap]
    constructor
    · rintro ⟨op, mem, asked⟩
      cases op with
      | essential required =>
          cases asked
          exact mem
      | _ => cases asked
    · intro mem
      exact ⟨_, mem, rfl⟩
  rw [← listed, batch]
  cases operators.essentials with
  | nil => simp
  | cons first later => simp

/-- What checks come to are checks. -/
lemma AreChecks.operators_batch (checks : operators.AreChecks) :
    AreChecks (batch operators).operators := by
  have nothing : ∀ {α : Type} (part : Operator → Option α), (∀ op, op.IsCheck → part op = none) →
      operators.filterMap part = [] := fun part ignores =>
    List.filterMap_eq_nil_iff.mpr fun op mem => ignores op (checks op mem)
  have fixed : (batch operators).value = none := by
    have none_fixed : operators.values = [] := nothing _ fun op check => by
      cases op with
      | value v => exact absurd rfl check.1
      | _ => rfl
    rw [batch, none_fixed, List.head?_nil]
  have added : (batch operators).add = none := by
    have none_added : operators.adds = [] := nothing _ fun op check => by
      cases op with
      | add list => exact absurd rfl check.2.1
      | _ => rfl
    rw [batch, none_added, given]
  have filled : (batch operators).default = none := by
    have none_filled : operators.defaults = [] := nothing _ fun op check => by
      cases op with
      | default v => exact absurd rfl check.2.2
      | _ => rfl
    rw [batch, none_filled, List.getLast?_nil]
  intro op mem
  cases op with
  | value v => simp [Combined.operators, fixed] at mem
  | add list => simp [Combined.operators, added] at mem
  | default v => simp [Combined.operators, filled] at mem
  | _ => simp [Operator.IsCheck, Operator.kind]

/-- What the lists of a kind come to asks for what each of them asks for, if one list does so for all. -/
lemma forall_met_given_iff {f : List (List Json) → List Json} {lists : List (List Json)}
    {make : ValueList → Operator}
    (listed : ∀ values, values ∈ lists ↔ ∃ list, list.values = values ∧ make list ∈ operators)
    (combined : ∀ list, make list ∈ (batch operators).operators ↔
      ∃ values, given f lists = some values ∧ .many values = list)
    (valued : ∀ list, (make list).Met found ↔ (make (.many list.values)).Met found)
    (common : lists ≠ [] → ((make (.many (f lists))).Met found ↔
      ∀ list ∈ lists, (make (.many list)).Met found)) :
    (∀ list, make list ∈ (batch operators).operators → (make list).Met found) ↔
      ∀ list, make list ∈ operators → (make list).Met found := by
  constructor
  · intro met list mem
    have mem' : list.values ∈ lists := (listed list.values).mpr ⟨list, rfl, mem⟩
    have some_given := List.ne_nil_of_mem mem'
    have together := met (.many (f lists))
      ((combined _).mpr ⟨f lists, given_eq_some_iff.mpr ⟨some_given, rfl⟩, rfl⟩)
    exact (valued list).mpr ((common some_given).mp together list.values mem')
  · intro met list mem
    obtain ⟨values, is_given, rfl⟩ := (combined list).mp mem
    obtain ⟨some_given, rfl⟩ := given_eq_some_iff.mp is_given
    refine (common some_given).mpr fun values mem' => ?_
    obtain ⟨list, rfl, op_mem⟩ := (listed values).mp mem'
    exact (valued list).mp (met list op_mem)

/-- **What checks come to asks for what they ask for.** -/
theorem forall_met_batch_iff (configs : ∀ op ∈ operators, op.config.WellFormed)
    (wellFormed : ∀ w, found = some w → w.WellFormed) (checks : operators.AreChecks) :
    (∀ op ∈ (batch operators).operators, op.Met found) ↔ ∀ op ∈ operators, op.Met found := by
  have oneOf : (∀ list, .oneOf list ∈ (batch operators).operators → (Operator.oneOf list).Met found) ↔
      ∀ list, .oneOf list ∈ operators → (Operator.oneOf list).Met found := by
    refine forall_met_given_iff (fun _ => mem_oneOfs) (fun list => by simp [Combined.operators, batch])
      (fun _ => Iff.rfl) fun some_given => met_oneOf_iff some_given (fun values mem => ?_) wellFormed
    obtain ⟨list, rfl, op_mem⟩ := mem_oneOfs.mp mem
    exact ValueList.wellFormed_of_toJson (configs _ op_mem)
  have subsetOf :
      (∀ list, .subsetOf list ∈ (batch operators).operators → (Operator.subsetOf list).Met found) ↔
        ∀ list, .subsetOf list ∈ operators → (Operator.subsetOf list).Met found := by
    refine forall_met_given_iff (fun _ => mem_subsetOfs)
      (fun list => by simp [Combined.operators, batch]) (fun _ => Iff.rfl) fun some_given =>
        met_subsetOf_iff some_given (fun values mem => ?_) wellFormed
    obtain ⟨list, rfl, op_mem⟩ := mem_subsetOfs.mp mem
    exact ValueList.wellFormed_of_toJson (configs _ op_mem)
  have supersetOf :
      (∀ list, .supersetOf list ∈ (batch operators).operators → (Operator.supersetOf list).Met found) ↔
        ∀ list, .supersetOf list ∈ operators → (Operator.supersetOf list).Met found :=
    forall_met_given_iff (fun _ => mem_supersetOfs)
      (fun list => by simp [Combined.operators, batch]) (fun _ => Iff.rfl) fun _ => met_supersetOf_iff
  have essential : .essential true ∈ (batch operators).operators ↔ .essential true ∈ operators := by
    refine Iff.trans ?_ essential_batch_iff
    simp [Combined.operators]
  -- what is neither a list nor `essential` is not a check or asks for nothing
  constructor
  · intro met op mem
    cases op with
    | oneOf list => exact oneOf.mp (fun list => met (.oneOf list)) list mem
    | subsetOf list => exact subsetOf.mp (fun list => met (.subsetOf list)) list mem
    | supersetOf list => exact supersetOf.mp (fun list => met (.supersetOf list)) list mem
    | essential required =>
        rintro rfl
        exact met (.essential true) (essential.mpr mem) rfl
    | value v => exact absurd rfl (checks _ mem).1
    | _ => trivial
  · intro met op mem
    cases op with
    | oneOf list => exact oneOf.mpr (fun list => met (.oneOf list)) list mem
    | subsetOf list => exact subsetOf.mpr (fun list => met (.subsetOf list)) list mem
    | supersetOf list => exact supersetOf.mpr (fun list => met (.supersetOf list)) list mem
    | essential required =>
        rintro rfl
        exact met (.essential true) (essential.mp mem) rfl
    | value v => exact absurd rfl (checks.operators_batch _ mem).1
    | _ => trivial

end Operators

/-! ### Policies -/

namespace Policy

variable {policies : List Policy} {policy : Policy} {metadata out : Members Json}

/-- All operators of the policy are checks. -/
def OnlyChecks (policy : Policy) : Prop :=
  ∀ entry ∈ policy.entries, Operators.AreChecks entry.2

instance : DecidablePred OnlyChecks := fun policy =>
  inferInstanceAs (Decidable (∀ entry ∈ policy.entries, Operators.AreChecks entry.2))

/-- The metadata meet every operator of the policy. -/
def MetBy (policy : Policy) (metadata : Members Json) : Prop :=
  ∀ parameter op, policy.Asks parameter op → op.Met (metadata.get? parameter)

/-- **A policy of checks returns the metadata that meet it**, and fails on all others. -/
theorem apply_eq_ok_iff_metBy (regular : policy.Regular) (checks : policy.OnlyChecks) :
    policy.apply metadata = .ok out ↔ out = metadata ∧ policy.MetBy metadata := by
  have unchanged : ∀ out, policy.apply metadata = .ok out → out = metadata := by
    intro out applied
    refine List.foldlM_induction (P := fun m => m = metadata) applied rfl ?_
    intro entry mem before after kept run
    obtain ⟨found, settled, rfl⟩ := applyEntry_eq_ok_iff.mp run
    rw [((Operators.settle_eq_ok_iff (checks entry mem)).mp settled).1, Members.assign_get?]
    exact kept
  have each : ∀ {parameter operators found}, (parameter, operators) ∈ policy.entries →
      (operators.settle (metadata.get? parameter) = .ok found ↔
        found = metadata.get? parameter ∧ ∀ op ∈ operators, op.Met (metadata.get? parameter)) :=
    fun mem => Operators.settle_eq_ok_iff_met (regular.entries _ mem) (checks _ mem)
  constructor
  · intro applied
    refine ⟨unchanged out applied, ?_⟩
    rintro parameter op ⟨operators, mem, op_mem⟩
    have settled := (settles_of_apply regular.distinct applied).entries _ mem
    exact ((each mem).mp settled).2 op op_mem
  · rintro ⟨rfl, met⟩
    cases applied : policy.apply out with
    | ok result => rw [unchanged result applied]
    | error violation =>
        obtain ⟨operators, mem, failed⟩ := settle_of_apply_eq_error regular.distinct applied
        have settled := (each mem).mpr
          ⟨rfl, fun op op_mem => met violation.parameter op ⟨operators, mem, op_mem⟩⟩
        rw [settled] at failed
        cases failed

lemma exists_apply_iff_metBy (regular : policy.Regular) (checks : policy.OnlyChecks) :
    (∃ out, policy.apply metadata = .ok out) ↔ policy.MetBy metadata := by
  constructor
  · rintro ⟨out, applied⟩
    exact ((apply_eq_ok_iff_metBy regular checks).mp applied).2
  · intro met
    exact ⟨metadata, (apply_eq_ok_iff_metBy regular checks).mpr ⟨rfl, met⟩⟩

/-- What is said by policies of checks are checks. -/
lemma areChecks_said (checks : ∀ p ∈ policies, p.OnlyChecks) (parameter : String) :
    (said policies parameter).AreChecks := by
  intro op mem
  obtain ⟨p, p_mem, operators, entry, op_mem⟩ := mem_flatMap_operatorsOn.mp mem
  exact checks p p_mem _ entry op op_mem

/-- Metadata meet what policies of checks come to if they meet each of them. -/
lemma merged_metBy_iff (configs : ∀ p ∈ policies, p.WellFormed)
    (wellFormed : (Json.object metadata).WellFormed) (checks : ∀ p ∈ policies, p.OnlyChecks) :
    (merged policies).MetBy metadata ↔ ∀ p ∈ policies, p.MetBy metadata := by
  have batched : ∀ parameter,
      (∀ op ∈ (said policies parameter).batch.operators, op.Met (metadata.get? parameter)) ↔
        ∀ op ∈ said policies parameter, op.Met (metadata.get? parameter) := fun parameter =>
    Operators.forall_met_batch_iff (wellFormed_said configs parameter)
      (fun _ => Json.wellFormed_of_get? wellFormed) (areChecks_said checks parameter)
  constructor
  · intro met p mem parameter op asks
    have listed : op ∈ said policies parameter := mem_flatMap_operatorsOn.mpr ⟨p, mem, asks⟩
    have named : parameter ∈ parameters policies := by
      by_contra absent
      rw [said_of_not_mem absent] at listed
      cases listed
    exact (batched parameter).mp (fun op op_mem =>
      met parameter op ⟨_, mem_merged.mpr ⟨named, rfl⟩, op_mem⟩) op listed
  · rintro met parameter op ⟨operators, entry, op_mem⟩
    obtain ⟨named, rfl⟩ := mem_merged.mp entry
    refine (batched parameter).mpr (fun op listed => ?_) op op_mem
    obtain ⟨p, mem, asks⟩ := mem_flatMap_operatorsOn.mp listed
    exact met p mem parameter op asks

/-- **Combining policies of checks is their conjunction.**  The combined policy accepts the metadata that
all policies accept, and no others, and none of them changes what it accepts. -/
theorem conjunction_of_combine (made : ∀ p ∈ policies, p.Made) (checks : ∀ p ∈ policies, p.OnlyChecks)
    (wellFormed : (Json.object metadata).WellFormed) (combined : combine policies = .ok policy) :
    ((∃ out, policy.apply metadata = .ok out) ↔
      ∀ p ∈ policies, ∃ out, p.apply metadata = .ok out) ∧
    (∀ out, policy.apply metadata = .ok out → out = metadata) ∧
    ∀ p ∈ policies, ∀ out, p.apply metadata = .ok out → out = metadata := by
  have regular : policy.Regular := (Made.combine made combined).regular
  obtain ⟨rfl, _⟩ := merged_of_combine combined
  have merged_checks : (merged policies).OnlyChecks := by
    rintro ⟨parameter, operators⟩ entry
    obtain ⟨_, rfl⟩ := mem_merged.mp entry
    exact (areChecks_said checks parameter).operators_batch
  refine ⟨?_, fun out applied => ?_, fun p mem out applied => ?_⟩
  · rw [exists_apply_iff_metBy regular merged_checks,
      merged_metBy_iff (fun p mem => (made p mem).regular.wellFormed) wellFormed checks]
    exact forall₂_congr fun p mem =>
      (exists_apply_iff_metBy (made p mem).regular (checks p mem)).symm
  · exact ((apply_eq_ok_iff_metBy regular merged_checks).mp applied).1
  · exact ((apply_eq_ok_iff_metBy (made p mem).regular (checks p mem)).mp applied).1

/-- The written form of a policy that lists algorithms and scopes. -/
def permitting : Json :=
  .object [("alg", .object [("one_of", .array [.string "x", .string "y"]),
      ("essential", .boolean true)]),
    ("scope", .object [("subset_of", .array [.string "a", .string "b"])])]

/-- The written form of a policy that requires a scope and lists other algorithms. -/
def demanding : Json :=
  .object [("scope", .object [("superset_of", .string "b"), ("regexp", .null)]),
    ("alg", .object [("one_of", .array [.string "y", .string "z"])])]

/-- The combination accepts what both policies accept, and refuses what the superior one alone accepts. -/
theorem conjunction_of_combine_permitting :
    ∃ superior subordinate policy, ofJson permitting = .ok superior ∧
      ofJson demanding = .ok subordinate ∧ combine [superior, subordinate] = .ok policy ∧
      (∃ out, policy.apply [("alg", .string "y"), ("scope", .array [.string "b"])] = .ok out) ∧
      (∃ out, superior.apply [("alg", .string "x")] = .ok out) ∧
      ¬ ∃ out, policy.apply [("alg", .string "x")] = .ok out := by
  have wellFormed : permitting.WellFormed ∧ demanding.WellFormed := by
    simp [permitting, demanding, Json.WellFormed, Json.AllMembersWellFormed, Json.AllWellFormed,
      Members.Distinct, Members.keys]
  obtain ⟨superior, read, subordinate, read', policy, combined, each, accepted, admitted, refused⟩ :
      ∃ superior, ofJson permitting = .ok superior ∧
      ∃ subordinate, ofJson demanding = .ok subordinate ∧
      ∃ policy, combine [superior, subordinate] = .ok policy ∧
      (superior.OnlyChecks ∧ subordinate.OnlyChecks) ∧
      ((∃ out, superior.apply [("alg", .string "y"), ("scope", .array [.string "b"])] = .ok out) ∧
        ∃ out, subordinate.apply [("alg", .string "y"), ("scope", .array [.string "b"])] = .ok out) ∧
      (∃ out, superior.apply [("alg", .string "x")] = .ok out) ∧
      ∃ violation, subordinate.apply [("alg", .string "x")] = .error violation :=
    ⟨_, rfl, _, rfl, _, rfl, by decide, ⟨⟨_, rfl⟩, ⟨_, rfl⟩⟩, ⟨_, rfl⟩, ⟨_, rfl⟩⟩
  have made : ∀ p ∈ [superior, subordinate], p.Made := by
    simp [Made.read wellFormed.1 read, Made.read wellFormed.2 read']
  have checks : ∀ p ∈ [superior, subordinate], p.OnlyChecks := by
    simp [each]
  refine ⟨superior, subordinate, policy, read, read', combined, ?_, admitted, ?_⟩
  · have wellFormed' : (Json.object [("alg", .string "y"),
        ("scope", .array [.string "b"])]).WellFormed := by
      simp [Json.WellFormed, Json.AllMembersWellFormed, Json.AllWellFormed, Members.Distinct,
        Members.keys]
    exact (conjunction_of_combine made checks wellFormed' combined).1.mpr (by simp [accepted])
  · have wellFormed' : (Json.object [("alg", .string "x")]).WellFormed := by
      simp [Json.WellFormed, Json.AllMembersWellFormed, Members.Distinct, Members.keys]
    intro succeeds
    obtain ⟨violation, failed⟩ := refused
    obtain ⟨out, applied⟩ := (conjunction_of_combine made checks wellFormed' combined).1.mp succeeds
      subordinate (by simp)
    rw [failed] at applied
    cases applied

end Policy

end Federation
