import Federation.Policy.Application
import Federation.Proofs.Checks
import Federation.Proofs.Members

/-!
# Entry by entry

A policy is run over one object that changes from entry to entry.  What comes out can be said without
looking at this object: each entry settles its own parameter by the value that the metadata themselves
have for it.

**Looking up.**  What is looked up in an entry is the configuration of the operator that is found under a
kind, whatever the kind (`Operators.lookups`).

**One entry.**  `Operators.Acts` says when an entry is applied at all; one that does not act leaves its
parameter absent.  `Operators.settle` is what becomes of the parameter in both cases, and running an entry
is assigning it (`Policy.applyEntry_eq`).

**Policies.**  `Policy.Settles` says what a policy makes of metadata, with the place of every parameter.
It holds of what the policy returns (`Policy.settles_of_apply`), by induction on the entries: the
parameter of the first one is settled, and no later entry has this name.  If the policy fails, the
violation is the one by which some entry fails on the metadata (`Policy.settle_of_apply_eq_error`).
-/

namespace Federation

namespace Operators

variable {operators : Operators} {kind : Operator.Kind} {current found : Option Json} {v : Json}
  {values : List Json}

/-! ### Looking up -/

/-- What each lookup gives is the configuration of the operator that is found under its kind. -/
structure Lookups (operators : Operators) : Prop where
  value : ∀ {v}, operators.value? = some v ↔ operators.find? .value = some (.value v)
  default : ∀ {v}, operators.default? = some v ↔ operators.find? .default = some (.default v)
  add : ∀ {values}, operators.add? = some values ↔
    ∃ list, list.values = values ∧ operators.find? .add = some (.add list)
  oneOf : ∀ {values}, operators.oneOf? = some values ↔
    ∃ list, list.values = values ∧ operators.find? .oneOf = some (.oneOf list)
  subsetOf : ∀ {values}, operators.subsetOf? = some values ↔
    ∃ list, list.values = values ∧ operators.find? .subsetOf = some (.subsetOf list)
  supersetOf : ∀ {values}, operators.supersetOf? = some values ↔
    ∃ list, list.values = values ∧ operators.find? .supersetOf = some (.supersetOf list)
  essential : operators.isEssential = true ↔ operators.find? .essential = some (.essential true)

/-- **Every kind of operator is looked up in the same way.** -/
theorem lookups (operators : Operators) : operators.Lookups := by
  constructor <;> intros <;>
    simp only [value?, default?, add?, oneOf?, subsetOf?, supersetOf?, isEssential] <;>
    cases operators.find? _ with
    | none => simp
    | some op => cases op <;> simp

/-- A list that is found is that of an operator of the entry. -/
lemma exists_of_find? {make : ValueList → Operator}
    (located : ∃ list, list.values = values ∧ operators.find? kind = some (make list)) :
    ∃ list, list.values = values ∧ make list ∈ operators := by
  obtain ⟨list, same, located⟩ := located
  exact ⟨list, same, List.mem_of_find?_eq_some located⟩

lemma mem_of_value? (h : operators.value? = some v) : .value v ∈ operators :=
  List.mem_of_find?_eq_some (operators.lookups.value.mp h)

lemma mem_of_default? (h : operators.default? = some v) : .default v ∈ operators :=
  List.mem_of_find?_eq_some (operators.lookups.default.mp h)

lemma exists_of_add? (h : operators.add? = some values) :
    ∃ list, list.values = values ∧ .add list ∈ operators :=
  exists_of_find? (operators.lookups.add.mp h)

lemma exists_of_oneOf? (h : operators.oneOf? = some values) :
    ∃ list, list.values = values ∧ .oneOf list ∈ operators :=
  exists_of_find? (operators.lookups.oneOf.mp h)

lemma exists_of_subsetOf? (h : operators.subsetOf? = some values) :
    ∃ list, list.values = values ∧ .subsetOf list ∈ operators :=
  exists_of_find? (operators.lookups.subsetOf.mp h)

lemma exists_of_supersetOf? (h : operators.supersetOf? = some values) :
    ∃ list, list.values = values ∧ .supersetOf list ∈ operators :=
  exists_of_find? (operators.lookups.supersetOf.mp h)

lemma mem_of_isEssential (h : operators.isEssential = true) : .essential true ∈ operators :=
  List.mem_of_find?_eq_some (operators.lookups.essential.mp h)

/-! ### One entry -/

/-- The checks of an entry change nothing, they only fail. -/
lemma supply_of_apply (h : operators.apply current = .ok found) :
    operators.supply current = .ok found := by
  obtain ⟨supplied, supply, h⟩ := Except.bind_eq_ok_iff.mp h
  cases supplied with
  | none =>
      dsimp only at h
      split at h
      · cases h
      · cases h
        exact supply
  | some value =>
      obtain ⟨⟨⟩, _, h⟩ := Except.bind_eq_ok_iff.mp h
      cases h
      exact supply

/-- What becomes of a parameter under an entry: the entry is applied, unless the parameter is absent and
the entry does not act on that. -/
def settle (operators : Operators) (current : Option Json) :
    Except Violation.Reason (Option Json) :=
  if current.isNone && !operators.actsOnAbsent then .ok current else operators.apply current

/-- The entry acts on its parameter: it is there, or the entry supplies a value or insists on one. -/
def Acts (operators : Operators) (current : Option Json) : Prop :=
  current ≠ none ∨ operators.actsOnAbsent = true

lemma settle_of_acts (acts : operators.Acts current) :
    operators.settle current = operators.apply current := by
  rw [settle, if_neg]
  rw [Bool.and_eq_true, Option.isNone_iff_eq_none, Bool.not_eq_true']
  rintro ⟨absent, idle⟩
  rcases acts with present | acting
  · exact present absent
  · rw [idle] at acting
    cases acting

/-- A parameter on which its entry does not act stays absent. -/
lemma settle_of_idle (idle : ¬ operators.Acts current) : operators.settle current = .ok none := by
  rw [Acts, not_or, not_not, Bool.not_eq_true] at idle
  obtain ⟨rfl, silent⟩ := idle
  simp [settle, silent]

end Operators

namespace Policy

variable {policy : Policy} {metadata out : Members Json}

/-- Running an entry is settling its parameter by the value it has. -/
lemma applyEntry_eq (metadata : Members Json) (parameter : String) (operators : Operators) :
    applyEntry metadata parameter operators =
      (Combination.blame parameter (operators.settle (metadata.get? parameter))).map
        (metadata.assign parameter) := by
  rw [applyEntry, Operators.settle]
  split
  · exact congrArg Except.ok (metadata.assign_get? parameter).symm
  · cases Combination.blame parameter (operators.apply (metadata.get? parameter)) with
    | error violation => rfl
    | ok found =>
        cases found with
        | none => rfl
        | some value => rfl

lemma applyEntry_eq_ok_iff {parameter : String} {operators : Operators} :
    applyEntry metadata parameter operators = .ok out ↔
      ∃ found, operators.settle (metadata.get? parameter) = .ok found ∧
        metadata.assign parameter found = out := by
  simp only [applyEntry_eq, Combination.blame, Except.map_eq_ok_iff, Except.mapError_eq_ok_iff]

/-! ### Policies -/

/-- What a policy makes of metadata. -/
structure Settles (policy : Policy) (metadata out : Members Json) : Prop where
  /-- Each entry settles its parameter by the value that the metadata have for it. -/
  entries : ∀ entry ∈ policy.entries,
    entry.2.settle (metadata.get? entry.1) = .ok (out.get? entry.1)
  /-- Parameters without an entry keep their value. -/
  others : ∀ parameter, parameter ∉ policy.entries.keys →
    out.get? parameter = metadata.get? parameter
  /-- Parameters keep their order, some are removed, and new ones follow in the order of the policy. -/
  keys : out.keys = metadata.keys.filter out.has ++
    policy.entries.keys.filter fun parameter => out.has parameter && !metadata.has parameter

/-- The empty policy changes nothing. -/
lemma settles_nil : Settles ⟨[]⟩ metadata metadata where
  entries := fun _ mem => by cases mem
  others := fun _ _ => rfl
  keys := by
    rw [List.filter_eq_self.mpr fun parameter mem => Members.has_iff.mpr mem]
    simp

/-- An entry before the others settles its parameter, on which they do not act. -/
lemma Settles.cons {parameter : String} {operators : Operators} {rest : Members Operators}
    {found : Option Json} (fresh : parameter ∉ rest.keys)
    (settled : operators.settle (metadata.get? parameter) = .ok found)
    (later : Settles ⟨rest⟩ (metadata.assign parameter found) out) :
    Settles ⟨(parameter, operators) :: rest⟩ metadata out := by
  have here : out.get? parameter = found := by
    rw [later.others parameter fresh, Members.get?_assign_self]
  have elsewhere : ∀ name ∈ rest.keys,
      (metadata.assign parameter found).get? name = metadata.get? name := by
    intro name mem
    exact Members.get?_assign_of_ne found fun same => fresh (same ▸ mem)
  refine ⟨fun entry mem => ?_, fun name unnamed => ?_, ?_⟩
  · rcases List.mem_cons.mp mem with rfl | mem
    · rw [here]
      exact settled
    · rw [← elsewhere entry.1 (List.mem_map_of_mem mem)]
      exact later.entries entry mem
  · rw [Members.keys_cons, List.mem_cons, not_or] at unnamed
    rw [later.others name unnamed.2, Members.get?_assign_of_ne found (Ne.symm unnamed.1)]
  · have kept : out.has parameter = found.isSome := by rw [Members.has, here]
    have new : ∀ name ∈ rest.keys,
        (out.has name && !(metadata.assign parameter found).has name) =
          (out.has name && !metadata.has name) := by
      intro name mem
      have same : (metadata.assign parameter found).has name = metadata.has name :=
        congrArg Option.isSome (elsewhere name mem)
      rw [same]
    rw [later.keys, Members.filter_keys_assign kept, List.filter_congr new, List.append_assoc,
      ← List.filter_append]
    rfl

/-- The first entry is run, and then the others. -/
lemma apply_cons (parameter : String) (operators : Operators) (rest : Members Operators)
    (metadata : Members Json) : apply ⟨(parameter, operators) :: rest⟩ metadata =
      applyEntry metadata parameter operators >>= apply ⟨rest⟩ :=
  List.foldlM_cons

/-- **What a policy returns is settled parameter by parameter.** -/
theorem settles_of_apply (distinct : policy.entries.Distinct) (h : policy.apply metadata = .ok out) :
    policy.Settles metadata out := by
  obtain ⟨entries⟩ := policy
  induction entries generalizing metadata with
  | nil =>
      cases h
      exact settles_nil
  | cons entry rest ih =>
      obtain ⟨parameter, operators⟩ := entry
      obtain ⟨fresh, distinct'⟩ := List.nodup_cons.mp distinct
      rw [apply_cons, Except.bind_eq_ok_iff] at h
      obtain ⟨next, first, later⟩ := h
      obtain ⟨found, settled, rfl⟩ := applyEntry_eq_ok_iff.mp first
      exact Settles.cons fresh settled (ih distinct' later)

/-- **A policy fails where one of its entries does**: this entry fails for the same reason on the value
that the metadata have for its parameter. -/
theorem settle_of_apply_eq_error {violation : Violation} (distinct : policy.entries.Distinct)
    (h : policy.apply metadata = .error violation) :
    ∃ operators, (violation.parameter, operators) ∈ policy.entries ∧
      operators.settle (metadata.get? violation.parameter) = .error violation.reason := by
  obtain ⟨entries⟩ := policy
  induction entries generalizing metadata with
  | nil => cases h
  | cons entry rest ih =>
      obtain ⟨parameter, operators⟩ := entry
      obtain ⟨fresh, distinct'⟩ := List.nodup_cons.mp distinct
      rw [apply_cons, applyEntry_eq] at h
      cases settled : operators.settle (metadata.get? parameter) with
      | error reason =>
          rw [settled] at h
          cases h
          exact ⟨operators, List.mem_cons_self, settled⟩
      | ok found =>
          rw [settled] at h
          obtain ⟨operators', mem, failed⟩ := ih distinct' h
          have named : violation.parameter ∈ Members.keys rest := List.mem_map_of_mem mem
          have differs : parameter ≠ violation.parameter := fun same => fresh (same ▸ named)
          rw [Members.get?_assign_of_ne found differs] at failed
          exact ⟨operators', List.mem_cons_of_mem _ mem, failed⟩

/-- A policy succeeds if all entries that act succeed on the metadata's own values. -/
lemma exists_apply_iff (distinct : policy.entries.Distinct) :
    (∃ out, policy.apply metadata = .ok out) ↔
      ∀ entry ∈ policy.entries, entry.2.Acts (metadata.get? entry.1) →
        ∃ found, entry.2.apply (metadata.get? entry.1) = .ok found := by
  constructor
  · rintro ⟨out, applied⟩ entry mem acts
    have settled := (settles_of_apply distinct applied).entries entry mem
    rw [Operators.settle_of_acts acts] at settled
    exact ⟨_, settled⟩
  · intro each
    cases applied : policy.apply metadata with
    | ok out => exact ⟨out, rfl⟩
    | error violation =>
        obtain ⟨operators, mem, failed⟩ := settle_of_apply_eq_error distinct applied
        by_cases acts : operators.Acts (metadata.get? violation.parameter)
        · obtain ⟨found, succeeds⟩ := each _ mem acts
          rw [Operators.settle_of_acts acts, succeeds] at failed
          cases failed
        · rw [Operators.settle_of_idle acts] at failed
          cases failed

end Policy

end Federation
