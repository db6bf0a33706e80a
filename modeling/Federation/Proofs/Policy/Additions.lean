import Federation.Proofs.Policy.Application

/-!
# What becomes of added values

A superior's `add` supplies values to a parameter.  No other list can take them away again, but a
policy that fixes the value of the parameter does: the combination keeps both operators, and applying
it looks at the fixed value only.

**Lists.**  `Json.ListedIn` is membership up to equality of values, which is what `unite` respects.

**One parameter.**  `Combination.running` is what has been combined for a parameter.  Policies reach it
one operator after the other (`Combination.running_of_addPolicies`), so what is known of a parameter
follows from what one operator does.

**Added values.**  `Combined.Adds` holds of a combination from the operator that adds a list onwards,
and a combination fixes a value only if an operator does.

**The theorem.**  `Policy.added_of_apply` says what becomes of each list that a policy adds.
`Policy.fixing_over_adding` shows that a subordinate can put a value of its own in its place.
-/

namespace Federation

/-! ### Lists -/

/-- The list holds the value or one that equals it. -/
def Json.ListedIn (v : Json) (items : List Json) : Prop :=
  ∃ w ∈ items, v = w ∨ (v == w) = true

namespace Json.ListedIn

variable {v : Json} {xs ys : List Json}

lemma of_mem (mem : v ∈ xs) : v.ListedIn xs :=
  ⟨v, mem, .inl rfl⟩

lemma mono (subset : xs ⊆ ys) (listed : v.ListedIn xs) : v.ListedIn ys := by
  obtain ⟨w, mem, equal⟩ := listed
  exact ⟨w, subset mem, equal⟩

lemma trans (listed : v.ListedIn xs) (later : ∀ w ∈ xs, w.ListedIn ys) : v.ListedIn ys := by
  obtain ⟨w, mem, equal⟩ := listed
  obtain ⟨u, mem', equal'⟩ := later w mem
  refine ⟨u, mem', ?_⟩
  rcases equal with rfl | equal
  · exact equal'
  · rcases equal' with rfl | equal'
    · exact .inr equal
    · exact .inr (beq_trans equal equal')

end Json.ListedIn

/-- Uniting drops nothing of the second list: a value is left out only if an equal one is there. -/
lemma listedIn_unite (known new : List Json) : ∀ v ∈ new, v.ListedIn (unite known new) := by
  induction new generalizing known with
  | nil =>
      intro v mem
      cases mem
  | cons w rest ih =>
      intro v mem
      show v.ListedIn (unite (if known.contains w then known else known ++ [w]) rest)
      rcases List.mem_cons.mp mem with rfl | mem
      · split
        · rename_i known_already
          obtain ⟨w, mem, equal⟩ := List.contains_iff_exists_mem_beq.mp known_already
          exact ⟨w, subset_unite known rest mem, .inr equal⟩
        · exact .of_mem (subset_unite _ rest (by simp))
      · exact ih _ v mem

/-! ### One parameter -/

namespace Policy

/-- The operators a policy puts on a parameter, in order. -/
def operatorsOn (parameter : String) (policy : Policy) : Operators :=
  policy.entries.flatMap fun entry => if entry.1 = parameter then entry.2 else []

lemma mem_operatorsOn {parameter : String} {policy : Policy} {op : Operator} :
    op ∈ policy.operatorsOn parameter ↔ policy.Asks parameter op := by
  rw [operatorsOn, List.mem_flatMap]
  constructor
  · rintro ⟨⟨name, operators⟩, mem, op_mem⟩
    dsimp only at op_mem
    split at op_mem
    · rename_i named
      exact ⟨operators, named ▸ mem, op_mem⟩
    · cases op_mem
  · rintro ⟨operators, mem, op_mem⟩
    exact ⟨(parameter, operators), mem, by rwa [if_pos rfl]⟩

/-- Of several policies, one of them asks for it. -/
lemma mem_flatMap_operatorsOn {parameter : String} {policies : List Policy} {op : Operator} :
    op ∈ policies.flatMap (operatorsOn parameter) ↔
      ∃ policy ∈ policies, policy.Asks parameter op := by
  rw [List.mem_flatMap]
  exact exists_congr fun policy => and_congr_right fun _ => mem_operatorsOn

end Policy

namespace Combination

variable {combination combination' : Combination}

/-- What has been combined for a parameter. -/
def running (parameter : String) (combination : Combination) : Combined :=
  (combination.get? parameter).getD Combined.empty

/-- An entry adds its operators to its own parameter and does nothing to the others. -/
lemma running_of_addEntry {name : String} {operators : Operators} (parameter : String)
    (h : combination.addEntry name operators = .ok combination') :
    (if name = parameter then operators else []).foldlM Combined.combine
      (combination.running parameter) = .ok (combination'.running parameter) := by
  obtain ⟨next, combined, h⟩ := Except.bind_eq_ok_iff.mp h
  cases h
  split
  · rename_i same
    subst same
    obtain ⟨_, folded, checked⟩ :=
      Except.bind_eq_ok_iff.mp (Except.mapError_eq_ok_iff.mp combined)
    obtain ⟨⟨⟩, _, checked⟩ := Except.bind_eq_ok_iff.mp checked
    cases checked
    rw [running, running, Members.get?_insert_self]
    exact folded
  · rename_i differs
    rw [running, running, Members.get?_insert_of_ne combination next differs]
    rfl

/-- A policy adds the operators it puts on a parameter, one after the other. -/
lemma running_of_addPolicy {policy : Policy} (parameter : String)
    (h : combination.addPolicy policy = .ok combination') :
    (policy.operatorsOn parameter).foldlM Combined.combine (combination.running parameter) =
      .ok (combination'.running parameter) :=
  List.foldlM_flatMap_of_view h fun _ _ _ added => running_of_addEntry parameter added

/-- **What is combined for a parameter depends on the operators on it alone**, superior first. -/
theorem running_of_addPolicies {policies : List Policy} (parameter : String)
    (h : policies.foldlM addPolicy combination = .ok combination') :
    (policies.flatMap (Policy.operatorsOn parameter)).foldlM Combined.combine
      (combination.running parameter) = .ok (combination'.running parameter) :=
  List.foldlM_flatMap_of_view h fun _ _ _ added => running_of_addPolicy parameter added

end Combination

/-! ### Added values -/

namespace Combined

variable {c c' : Combined} {op : Operator}

/-- The combination adds every value of the list. -/
def Adds (c : Combined) (list : ValueList) : Prop :=
  ∃ added, c.add = some added ∧ ∀ v ∈ list.values, v.ListedIn added

/-- Only an operator that adds a list changes what is added. -/
lemma add_of_combine (h : c.combine op = .ok c') :
    c'.add = c.add ∨
      ∃ list, op = .add list ∧ c'.add = some (unite (c.add.getD []) list.values) := by
  cases op with
  | value v =>
      simp only [combine] at h
      split at h
      · cases h
        exact .inl rfl
      · split at h
        · cases h
          exact .inl rfl
        · cases h
  | add list =>
      cases h
      exact .inr ⟨list, rfl, rfl⟩
  | oneOf list =>
      obtain ⟨_, _, h⟩ := Except.bind_eq_ok_iff.mp h
      cases h
      exact .inl rfl
  | subsetOf list =>
      obtain ⟨_, _, h⟩ := Except.bind_eq_ok_iff.mp h
      cases h
      exact .inl rfl
  | _ =>
      cases h
      exact .inl rfl

/-- Only an operator that fixes a value changes what is fixed. -/
lemma value_of_combine (h : c.combine op = .ok c') : c'.value = c.value ∨ ∃ v, op = .value v := by
  cases op with
  | value v => exact .inr ⟨v, rfl⟩
  | oneOf list =>
      obtain ⟨_, _, h⟩ := Except.bind_eq_ok_iff.mp h
      cases h
      exact .inl rfl
  | subsetOf list =>
      obtain ⟨_, _, h⟩ := Except.bind_eq_ok_iff.mp h
      cases h
      exact .inl rfl
  | _ =>
      cases h
      exact .inl rfl

lemma adds_of_combine_add {list : ValueList} (h : c.combine (.add list) = .ok c') :
    c'.Adds list := by
  cases h
  exact ⟨_, rfl, listedIn_unite _ _⟩

/-- No operator takes back what is added. -/
lemma Adds.of_combine {list : ValueList} (adds : c.Adds list) (h : c.combine op = .ok c') :
    c'.Adds list := by
  obtain ⟨added, running, listed⟩ := adds
  rcases add_of_combine h with same | ⟨further, _, united⟩
  · exact ⟨added, same.trans running, listed⟩
  · rw [running] at united
    exact ⟨_, united, fun v mem => (listed v mem).mono (subset_unite added further.values)⟩

/-- A list that one of the operators adds is added in the end. -/
lemma adds_of_foldlM {operators : Operators} {list : ValueList}
    (h : operators.foldlM combine c = .ok c') (mem : .add list ∈ operators) : c'.Adds list :=
  List.foldlM_of_mem (I := fun _ => True) (Q := fun c => c.Adds list) h mem trivial
    (fun _ _ _ _ _ _ => trivial) (fun _ _ _ added => adds_of_combine_add added)
    fun _ _ _ _ _ adds combined => adds.of_combine combined

/-- Without an operator that fixes a value none is fixed. -/
lemma value_of_foldlM {operators : Operators} (h : operators.foldlM combine c = .ok c')
    (not_fixed : c.value = none) (none_fixes : ∀ v, .value v ∉ operators) : c'.value = none := by
  refine List.foldlM_induction (P := fun c => c.value = none) h not_fixed ?_
  intro op mem before after free combined
  rcases value_of_combine combined with same | ⟨v, rfl⟩
  · exact same.trans free
  · exact absurd mem (none_fixes v)

end Combined

namespace Operators

variable {operators : Operators} {current found : Option Json}

/-- The parameter is an array that holds the values. -/
def Holds (values : List Json) (found : Option Json) : Prop :=
  ∃ items, found = some (.array items) ∧ ∀ v ∈ values, v.ListedIn items

/-- Where no value is fixed, an entry that adds values leaves an array that holds them. -/
lemma holds_of_apply {added : List Json} (free : operators.value? = none)
    (adds : operators.add? = some added) (h : operators.apply current = .ok found) :
    Holds added found := by
  obtain ⟨supplied, supply, h⟩ := Except.bind_eq_ok_iff.mp h
  have united : ∃ known, supplied = some (.array (unite known added)) := by
    simp only [Operators.supply, free, adds] at supply
    split at supply
    · cases supply
      exact ⟨[], rfl⟩
    · rename_i items
      cases supply
      exact ⟨items, rfl⟩
    · cases supply
  obtain ⟨known, rfl⟩ := united
  obtain ⟨⟨⟩, _, h⟩ := Except.bind_eq_ok_iff.mp h
  cases h
  exact ⟨unite known added, rfl, listedIn_unite known added⟩

/-- An operator that adds values acts on an absent parameter, too. -/
lemma actsOnAbsent_of_add {added : List Json} (adds : operators.add? = some added) :
    operators.actsOnAbsent = true := by
  obtain ⟨list, _, mem⟩ := exists_of_add? adds
  exact List.any_eq_true.mpr ⟨.add list, mem, rfl⟩

end Operators

/-! ### Policies -/

namespace Policy

variable {metadata out : Members Json} {parameter : String}

lemma holds_of_applyEntry {operators : Operators} {added : List Json}
    (free : operators.value? = none) (adds : operators.add? = some added)
    (h : applyEntry metadata parameter operators = .ok out) :
    Operators.Holds added (out.get? parameter) := by
  obtain ⟨found, settled, rfl⟩ := applyEntry_eq_ok_iff.mp h
  rw [Operators.settle_of_acts (.inr (Operators.actsOnAbsent_of_add adds))] at settled
  rw [Members.get?_assign_self]
  exact Operators.holds_of_apply free adds settled

/-- A parameter with an operator has an entry in the combined policy, which lists what was combined
from all operators on it. -/
lemma entry_of_combine {policies : List Policy} {policy asker : Policy} {op : Operator}
    (h : combine policies = .ok policy) (mem : asker ∈ policies) (asks : asker.Asks parameter op) :
    policy.entries.Distinct ∧ ∃ combined : Combined, combined.Covers op ∧
      (parameter, combined.operators) ∈ policy.entries ∧
      (policies.flatMap (operatorsOn parameter)).foldlM Combined.combine Combined.empty =
        .ok combined := by
  obtain ⟨combination, folded, finished⟩ := Except.bind_eq_ok_iff.mp h
  have extended := Combination.Extends.of_foldlM folded fun _ _ _ added =>
    Combination.extends_of_addPolicy added
  have distinct : combination.Distinct := extended.distinct List.nodup_nil
  have entries := Combination.finish_entries distinct finished
  obtain ⟨combined, found, covers⟩ := extended.covers parameter op ⟨asker, mem, asks⟩
  have run := Combination.running_of_addPolicies parameter folded
  rw [Combination.running, Combination.running, found] at run
  refine ⟨?_, combined, covers, ?_, run⟩
  · rw [entries, Members.Distinct, Members.keys_mapValues]
    exact distinct
  · rw [entries]
    exact Members.mem_mapValues (Members.mem_of_get? found)

/-- **What a policy adds is there in the end, unless some policy fixes the value.**  Then the parameter
is what was fixed, wherever the policy that fixes it stands. -/
theorem added_of_apply {policies : List Policy} {policy asker : Policy} {list : ValueList}
    (combined : combine policies = .ok policy) (applied : policy.apply metadata = .ok out)
    (mem : asker ∈ policies) (asks : asker.Asks parameter (.add list)) :
    ((∀ other ∈ policies, ∀ v, ¬ other.Asks parameter (.value v)) →
        Operators.Holds list.values (out.get? parameter)) ∧
      ∀ other ∈ policies, ∀ v, other.Asks parameter (.value v) →
        (Operator.value v).Met (out.get? parameter) := by
  constructor
  · intro none_fixes
    obtain ⟨distinct, c, _, entry, run⟩ := entry_of_combine combined mem asks
    obtain ⟨added, running, listed⟩ : c.Adds list :=
      Combined.adds_of_foldlM run (mem_flatMap_operatorsOn.mpr ⟨asker, mem, asks⟩)
    have free : c.value = none := by
      refine Combined.value_of_foldlM run rfl fun v fixed => ?_
      obtain ⟨other, other_mem, fixes⟩ := mem_flatMap_operatorsOn.mp fixed
      exact none_fixes other other_mem v fixes
    obtain ⟨items, found, holds⟩ := settled_of_apply (Q := Operators.Holds added) distinct applied
      entry fun _ _ settled =>
        holds_of_applyEntry (c.value?_operators.trans free) (c.add?_operators.trans running) settled
    exact ⟨items, found, fun v mem => (listed v mem).trans holds⟩
  · intro other other_mem v fixes
    obtain ⟨distinct, c, covers, entry, _⟩ := entry_of_combine combined other_mem fixes
    exact Operator.met_of_covers covers ((satisfied_of_apply distinct applied).1 _ entry)

/-- A policy that adds a contact. -/
def adding (contact : String) : Policy :=
  ⟨[("contacts", [.add (.many [.string contact])])]⟩

/-- A policy that fixes the contacts. -/
def fixing (contact : String) : Policy :=
  ⟨[("contacts", [.value (.array [.string contact])])]⟩

/-- An entry of a policy that adds a contact puts nothing but that on a parameter. -/
lemma asks_adding {contact parameter : String} {op : Operator} :
    (adding contact).Asks parameter op ↔
      parameter = "contacts" ∧ op = .add (.many [.string contact]) := by
  constructor
  · rintro ⟨operators, entry, listed⟩
    cases List.mem_singleton.mp entry
    exact ⟨rfl, List.mem_singleton.mp listed⟩
  · rintro ⟨rfl, rfl⟩
    exact ⟨_, List.mem_singleton_self _, List.mem_singleton_self _⟩

/-- Both policies add to a list, and what the first adds is in the result. -/
theorem added_adding :
    ∃ policy out, combine [adding "a", adding "b"] = .ok policy ∧
      policy.apply [("contacts", .array [.string "c"])] = .ok out ∧
      Operators.Holds [.string "a"] (out.get? "contacts") := by
  have evaluated : ((combine [adding "a", adding "b"]).toOption.bind fun policy =>
      (policy.apply [("contacts", .array [.string "c"])]).toOption).isSome = true := by
    decide +kernel
  obtain ⟨out, found⟩ := Option.isSome_iff_exists.mp evaluated
  obtain ⟨policy, combined, applied⟩ := Option.bind_eq_some_iff.mp found
  rw [Except.toOption_eq_some_iff] at combined applied
  have asks : (adding "a").Asks "contacts" (.add (.many [.string "a"])) :=
    asks_adding.mpr ⟨rfl, rfl⟩
  refine ⟨policy, out, combined, applied,
    (added_of_apply combined applied List.mem_cons_self asks).1 ?_⟩
  intro other mem v fixes
  simp only [List.mem_cons, List.not_mem_nil, or_false] at mem
  rcases mem with rfl | rfl
  · cases (asks_adding.mp fixes).2
  · cases (asks_adding.mp fixes).2

/-- **A subordinate can put a value in the place of what its superior adds.** -/
theorem fixing_over_adding :
    Policy.read (.object [("contacts", .object [("add", .array [.string "a"])])]) =
      .ok (adding "a") ∧
    Policy.read (.object [("contacts", .object [("value", .array [.string "b"])])]) =
      .ok (fixing "b") ∧
    (adding "a").Asks "contacts" (.add (.many [.string "a"])) ∧
    (∀ v, ¬ (adding "a").Asks "contacts" (.value v)) ∧
    ∃ policy out, combine [adding "a", fixing "b"] = .ok policy ∧ policy.apply [] = .ok out ∧
      ¬ Operators.Holds [.string "a"] (out.get? "contacts") := by
  refine ⟨rfl, rfl, asks_adding.mpr ⟨rfl, rfl⟩, ?_, ?_⟩
  · intro v fixes
    cases (asks_adding.mp fixes).2
  · refine ⟨_, _, rfl, rfl, ?_⟩
    rintro ⟨items, found, holds⟩
    cases found
    obtain ⟨w, mem, equal⟩ := holds _ (List.mem_singleton_self _)
    cases List.mem_singleton.mp mem
    rcases equal with equal | equal
    · simp at equal
    · exact absurd equal (by decide)

end Policy

end Federation
