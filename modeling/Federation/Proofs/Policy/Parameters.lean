import Federation.Proofs.Policy.Additions

/-!
# Combining parameter by parameter

Policies are combined entry by entry, and a parameter may have entries in many of them.  What comes out
is the same as if each parameter had been combined by itself: the entries of other parameters do not
matter, and neither do the checks that are made on the way.

**First appearances.**  `List.enlist` adds to a list what is not in it yet.  It is how parameters get
their order and how values are united.

**Checks on the way.**  Every operator makes a combination stricter (`Combined.tightens_of_combine`), so
a combination that is consistent has been so all the time.

**The theorem.**  `Combination.Collects` says what has become of each parameter when entries have been
added, and `Combination.addPolicy_eq_ok_iff` that this is what adding them means.
`Combination.foldlM_addPolicy` adds many policies as one.
-/

namespace Federation

/-! ### First appearances -/

section Enlist

variable {α : Type} [BEq α]

/-- The items of two lists, those of the second one only if they are new. -/
def List.enlist (known new : List α) : List α :=
  new.foldl (fun known item => if known.contains item then known else known ++ [item]) known

lemma List.enlist_nil (known : List α) : enlist known [] = known := rfl

lemma List.enlist_cons (known : List α) (item : α) (new : List α) :
    enlist known (item :: new) =
      enlist (if known.contains item then known else known ++ [item]) new := rfl

lemma List.enlist_append (known new later : List α) :
    enlist known (new ++ later) = enlist (enlist known new) later :=
  List.foldl_append

/-- What is known stays where it is. -/
lemma List.subset_enlist (known new : List α) : known ⊆ enlist known new := by
  induction new generalizing known with
  | nil => exact List.Subset.refl known
  | cons item rest ih =>
      rw [enlist_cons]
      split
      · exact ih known
      · exact List.Subset.trans (List.subset_append_left known [item]) (ih _)

/-- An item that one of the two lists contains is in the list of both. -/
lemma List.contains_enlist (trans : ∀ a b c : α, a == b → b == c → a == c) {known new : List α}
    {item : α} (contained : new.contains item = true) : (enlist known new).contains item = true := by
  induction new generalizing known with
  | nil => cases contained
  | cons head rest ih =>
      rw [enlist_cons]
      rw [List.contains_cons, Bool.or_eq_true] at contained
      rcases contained with same | later
      · rw [List.contains_iff_exists_mem_beq]
        split
        · rename_i present
          obtain ⟨other, mem, equal⟩ := List.contains_iff_exists_mem_beq.mp present
          exact ⟨other, subset_enlist known rest mem, trans item head other same equal⟩
        · exact ⟨head, subset_enlist _ rest (by simp), same⟩
      · exact ih later

/-- Adding two lists in turn is adding what they make together. -/
lemma List.enlist_assoc (trans : ∀ a b c : α, a == b → b == c → a == c) (xs ys zs : List α) :
    enlist xs (enlist ys zs) = enlist (enlist xs ys) zs := by
  induction zs generalizing ys with
  | nil => rfl
  | cons item rest ih =>
      rw [enlist_cons, enlist_cons, ih]
      congr 1
      by_cases present : ys.contains item = true
      · rw [if_pos present, if_pos (contains_enlist trans present)]
      · rw [if_neg present, enlist_append]
        rfl

end Enlist

lemma unite_eq_enlist (known new : List Json) : unite known new = List.enlist known new := rfl

/-- A name is listed if it is in one of the two lists. -/
lemma List.mem_enlist {known new : List String} {name : String} :
    name ∈ enlist known new ↔ name ∈ known ∨ name ∈ new := by
  induction new generalizing known with
  | nil => simp [enlist_nil]
  | cons item rest ih =>
      rw [enlist_cons, ih, List.mem_cons]
      split
      · rename_i present
        rw [List.contains_iff_mem] at present
        constructor
        · rintro (mem | mem)
          · exact .inl mem
          · exact .inr (.inr mem)
        · rintro (mem | rfl | mem)
          · exact .inl mem
          · exact .inl present
          · exact .inr mem
      · rw [List.mem_append, List.mem_singleton, or_assoc]

/-- The names of what is set are listed. -/
lemma Members.keys_insert_eq_enlist {α : Type} (members : Members α) (name : String) (value : α) :
    (members.insert name value).keys = List.enlist members.keys [name] := by
  rw [keys_insert, List.enlist_cons, List.enlist_nil]
  simp only [List.contains_iff_mem]

/-! ### Checks on the way -/

namespace Combined

variable {c c' : Combined} {op : Operator}

/-- The lists admit the value. -/
structure Admits (c : Combined) (v : Json) : Prop where
  oneOf : ∀ allowed, c.oneOf = some allowed → allowed.contains v = true
  subsetOf : ∀ allowed, c.subsetOf = some allowed → ∀ w ∈ v.asSet, allowed.contains w = true
  supersetOf : ∀ required, c.supersetOf = some required → ∀ w ∈ required, v.asSet.contains w = true

lemma rejection?_eq_none_iff {v : Json} : c.rejection? v = none ↔ c.Admits v := by
  rw [rejection?, Option.or_eq_none_iff, Option.or_eq_none_iff]
  constructor
  · rintro ⟨listed, inside, complete⟩
    exact {
      oneOf := fun allowed given => by simpa [given] using listed
      subsetOf := fun allowed given => by simpa [given] using inside
      supersetOf := fun required asked => by simpa [asked] using complete }
  · intro admits
    refine ⟨?_, ?_, ?_⟩
    · cases given : c.oneOf with
      | none => rfl
      | some allowed => simp [admits.oneOf allowed given]
    · cases given : c.subsetOf with
      | none => rfl
      | some allowed => simpa using admits.subsetOf allowed given
    · cases asked : c.supersetOf with
      | none => rfl
      | some required => simpa using admits.supersetOf required asked

/-- What the checks after an entry ask for. -/
structure Consistent (c : Combined) : Prop where
  inSubset : ∀ required allowed, c.supersetOf = some required → c.subsetOf = some allowed →
    ∀ v ∈ required, allowed.contains v = true
  inOneOf : ∀ required allowed, c.supersetOf = some required → c.oneOf = some allowed →
    ∀ v ∈ required, allowed.contains v = true
  admitted : ∀ v, c.value = some v → v.isNull = false → c.Admits v

lemma requiredOutside?_eq_none_iff {lists : Option (List Json)} :
    c.requiredOutside? lists = none ↔ ∀ required allowed, c.supersetOf = some required →
      lists = some allowed → ∀ v ∈ required, allowed.contains v = true := by
  unfold requiredOutside?
  split
  · rename_i required allowed asked
    simp [asked]
  · rename_i absent
    constructor
    · intro _ required allowed asked given
      exact absurd given (absent required allowed asked)
    · intro _
      rfl

lemma checkConsistency_eq_ok_iff : c.checkConsistency = .ok () ↔ c.Consistent := by
  unfold checkConsistency
  constructor
  · intro h
    split at h
    · cases h
    rename_i inSubset
    split at h
    · cases h
    rename_i inOneOf
    refine ⟨requiredOutside?_eq_none_iff.mp inSubset, requiredOutside?_eq_none_iff.mp inOneOf, ?_⟩
    intro v fixed filled
    simp only [fixed, filled, Bool.false_eq_true, if_false] at h
    split at h
    · cases h
    · rename_i admitted
      exact rejection?_eq_none_iff.mp admitted
  · intro consistent
    rw [requiredOutside?_eq_none_iff.mpr consistent.inSubset]
    dsimp only
    rw [requiredOutside?_eq_none_iff.mpr consistent.inOneOf]
    dsimp only
    split
    · rfl
    · rename_i v fixed
      split
      · rfl
      · rename_i filled
        have admits := consistent.admitted v fixed (by simpa using filled)
        rw [rejection?_eq_none_iff.mpr admits]

/-- The later combination asks for everything the earlier one does. -/
structure Tightens (before after : Combined) : Prop where
  value : ∀ v, before.value = some v → after.value = some v
  oneOf : ∀ allowed, before.oneOf = some allowed →
    ∃ allowed', after.oneOf = some allowed' ∧ ∀ v, allowed'.contains v = true → allowed.contains v = true
  subsetOf : ∀ allowed, before.subsetOf = some allowed →
    ∃ allowed', after.subsetOf = some allowed' ∧
      ∀ v, allowed'.contains v = true → allowed.contains v = true
  supersetOf : ∀ required, before.supersetOf = some required →
    ∃ required', after.supersetOf = some required' ∧ required ⊆ required'

namespace Tightens

lemma refl (c : Combined) : Tightens c c where
  value := fun _ fixed => fixed
  oneOf := fun allowed given => ⟨allowed, given, fun _ contained => contained⟩
  subsetOf := fun allowed given => ⟨allowed, given, fun _ contained => contained⟩
  supersetOf := fun required asked => ⟨required, asked, List.Subset.refl required⟩

lemma trans {c'' : Combined} (first : Tightens c c') (second : Tightens c' c'') :
    Tightens c c'' where
  value := fun v fixed => second.value v (first.value v fixed)
  oneOf := by
    intro allowed given
    obtain ⟨allowed', given', within⟩ := first.oneOf allowed given
    obtain ⟨allowed'', given'', within'⟩ := second.oneOf allowed' given'
    exact ⟨allowed'', given'', fun v contained => within v (within' v contained)⟩
  subsetOf := by
    intro allowed given
    obtain ⟨allowed', given', within⟩ := first.subsetOf allowed given
    obtain ⟨allowed'', given'', within'⟩ := second.subsetOf allowed' given'
    exact ⟨allowed'', given'', fun v contained => within v (within' v contained)⟩
  supersetOf := by
    intro required asked
    obtain ⟨required', asked', subset⟩ := first.supersetOf required asked
    obtain ⟨required'', asked'', subset'⟩ := second.supersetOf required' asked'
    exact ⟨required'', asked'', List.Subset.trans subset subset'⟩

/-- What the stricter combination admits the other one admits. -/
lemma admits {v : Json} (tightens : Tightens c c') (admits : c'.Admits v) : c.Admits v where
  oneOf := by
    intro allowed given
    obtain ⟨allowed', given', within⟩ := tightens.oneOf allowed given
    exact within v (admits.oneOf allowed' given')
  subsetOf := by
    intro allowed given w mem
    obtain ⟨allowed', given', within⟩ := tightens.subsetOf allowed given
    exact within w (admits.subsetOf allowed' given' w mem)
  supersetOf := by
    intro required asked w mem
    obtain ⟨required', asked', subset⟩ := tightens.supersetOf required asked
    exact admits.supersetOf required' asked' w (subset mem)

/-- What was consistent after has been consistent before. -/
lemma consistent (tightens : Tightens c c') (consistent : c'.Consistent) : c.Consistent where
  inSubset := by
    intro required allowed asked given v mem
    obtain ⟨required', asked', subset⟩ := tightens.supersetOf required asked
    obtain ⟨allowed', given', within⟩ := tightens.subsetOf allowed given
    exact within v (consistent.inSubset required' allowed' asked' given' v (subset mem))
  inOneOf := by
    intro required allowed asked given v mem
    obtain ⟨required', asked', subset⟩ := tightens.supersetOf required asked
    obtain ⟨allowed', given', within⟩ := tightens.oneOf allowed given
    exact within v (consistent.inOneOf required' allowed' asked' given' v (subset mem))
  admitted := fun v fixed filled =>
    tightens.admits (consistent.admitted v (tightens.value v fixed) filled)

end Tightens

/-- **Every operator makes a combination stricter.** -/
theorem tightens_of_combine (h : c.combine op = .ok c') : Tightens c c' := by
  have same := Tightens.refl c
  cases op with
  | value v =>
      simp only [combine] at h
      split at h
      · rename_i not_fixed
        cases h
        refine { same with value := fun u fixed => ?_ }
        rw [not_fixed] at fixed
        cases fixed
      · split at h
        · cases h
          exact same
        · cases h
  | oneOf list =>
      obtain ⟨allowed, narrowed, h⟩ := Except.bind_eq_ok_iff.mp h
      cases h
      exact { same with
        oneOf := fun before given => ⟨allowed, rfl, (narrow_allows narrowed).2 before given⟩ }
  | subsetOf list =>
      obtain ⟨allowed, narrowed, h⟩ := Except.bind_eq_ok_iff.mp h
      cases h
      exact { same with
        subsetOf := fun before given => ⟨allowed, rfl, (narrow_allows narrowed).2 before given⟩ }
  | supersetOf list =>
      cases h
      refine { same with supersetOf := fun required asked => ⟨_, rfl, ?_⟩ }
      rw [asked]
      exact subset_unite required list.values
  | _ =>
      cases h
      exact { same with }

lemma tightens_of_foldlM {operators : Operators} (h : operators.foldlM combine c = .ok c') :
    Tightens c c' :=
  List.foldlM_induction (P := Tightens c) h (Tightens.refl c) fun _ _ _ _ tightens combined =>
    tightens.trans (tightens_of_combine combined)

lemma combineEntry_eq_ok_iff {operators : Operators} :
    c.combineEntry operators = .ok c' ↔ operators.foldlM combine c = .ok c' ∧ c'.Consistent := by
  rw [combineEntry, Except.bind_eq_ok_iff]
  constructor
  · rintro ⟨next, folded, h⟩
    obtain ⟨⟨⟩, checked, h⟩ := Except.bind_eq_ok_iff.mp h
    cases h
    exact ⟨folded, checkConsistency_eq_ok_iff.mp checked⟩
  · rintro ⟨folded, consistent⟩
    exact ⟨c', folded, Except.bind_eq_ok_iff.mpr
      ⟨(), checkConsistency_eq_ok_iff.mpr consistent, rfl⟩⟩

end Combined

/-! ### The entries of a policy -/

namespace Combination

variable {before after next : Combination} {parameter : String} {operators : Operators}

lemma get?_of_mem_keys (mem : parameter ∈ Members.keys before) :
    before.get? parameter = some (before.running parameter) := by
  cases found : before.get? parameter with
  | none => exact absurd mem ((Members.get?_eq_none_iff before parameter).mp found)
  | some c => rw [running, found, Option.getD_some]

/-- Combinations are equal if they list the same parameters and have combined the same for each. -/
lemma ext_running (distinct : before.Distinct) (keys : Members.keys after = Members.keys before)
    (same : ∀ parameter ∈ Members.keys before, after.running parameter = before.running parameter) :
    after = before := by
  have distinct' : after.Distinct := by
    rw [Members.Distinct, keys]
    exact distinct
  refine Members.ext_of_distinct distinct' distinct keys fun parameter mem => ?_
  rw [get?_of_mem_keys mem, get?_of_mem_keys (keys ▸ mem), same parameter mem]

lemma running_insert_self (c : Combined) :
    running parameter (before.insert parameter c) = c := by
  rw [running, Members.get?_insert_self, Option.getD_some]

lemma running_insert_of_ne {other : String} (c : Combined) (differs : parameter ≠ other) :
    running other (before.insert parameter c) = before.running other := by
  rw [running, running, Members.get?_insert_of_ne before c differs]

lemma addEntry_eq_ok_iff :
    before.addEntry parameter operators = .ok next ↔ ∃ c,
      operators.foldlM Combined.combine (before.running parameter) = .ok c ∧ c.Consistent ∧
        next = before.insert parameter c := by
  rw [addEntry, Except.bind_eq_ok_iff]
  constructor
  · rintro ⟨c, combined, h⟩
    obtain ⟨folded, consistent⟩ :=
      Combined.combineEntry_eq_ok_iff.mp (Except.mapError_eq_ok_iff.mp combined)
    exact ⟨c, folded, consistent, (Except.pure_eq_ok_iff.mp h).symm⟩
  · rintro ⟨c, folded, consistent, rfl⟩
    exact ⟨c, Except.mapError_eq_ok_iff.mpr
      (Combined.combineEntry_eq_ok_iff.mpr ⟨folded, consistent⟩), rfl⟩

/-- What a combination is when entries have been added to another one. -/
structure Collects (before : Combination) (added : Policy) (after : Combination) : Prop where
  /-- Parameters are listed by first appearance. -/
  keys : Members.keys after = List.enlist before.keys added.entries.keys
  /-- Each parameter has all operators on it combined, whatever stands between them. -/
  combined : ∀ parameter, (added.operatorsOn parameter).foldlM Combined.combine
    (before.running parameter) = .ok (after.running parameter)
  consistent : ∀ parameter ∈ added.entries.keys, (after.running parameter).Consistent

lemma operatorsOn_cons (name : String) (rest : Members Operators) :
    Policy.operatorsOn parameter ⟨(name, operators) :: rest⟩ =
      (if name = parameter then operators else []) ++ Policy.operatorsOn parameter ⟨rest⟩ :=
  List.flatMap_cons

lemma operatorsOn_of_not_mem {added : Policy} (absent : parameter ∉ added.entries.keys) :
    added.operatorsOn parameter = [] := by
  rw [Policy.operatorsOn, List.flatMap_eq_nil_iff]
  intro entry mem
  rw [if_neg]
  rintro rfl
  exact absent (List.mem_map_of_mem mem)

/-- The first entry is added, then the others. -/
lemma collects_cons_iff {rest : Members Operators} :
    Collects before ⟨(parameter, operators) :: rest⟩ after ↔ ∃ c,
      operators.foldlM Combined.combine (before.running parameter) = .ok c ∧ c.Consistent ∧
        Collects (before.insert parameter c) ⟨rest⟩ after := by
  have listed : ∀ c, List.enlist (Members.keys (before.insert parameter c)) (Members.keys rest) =
      List.enlist before.keys (Members.keys ((parameter, operators) :: rest)) := by
    intro c
    rw [Members.keys_insert_eq_enlist, ← List.enlist_append]
    rfl
  constructor
  · rintro ⟨keys, combined, consistent⟩
    have own := combined parameter
    rw [operatorsOn_cons, if_pos rfl, List.foldlM_append, Except.bind_eq_ok_iff] at own
    obtain ⟨c, first, later⟩ := own
    -- the check after this entry is implied by the one after the last entry of the parameter
    have consistent' := (Combined.tightens_of_foldlM later).consistent
      (consistent parameter List.mem_cons_self)
    refine ⟨c, first, consistent', keys.trans (listed c).symm, fun other => ?_,
      fun other mem => consistent other (List.mem_cons_of_mem parameter mem)⟩
    by_cases same : parameter = other
    · subst same
      rw [running_insert_self]
      exact later
    · have elsewhere := combined other
      rw [operatorsOn_cons, if_neg same, List.nil_append] at elsewhere
      rw [running_insert_of_ne c same]
      exact elsewhere
  · rintro ⟨c, first, consistent, collected⟩
    refine ⟨collected.keys.trans (listed c), fun other => ?_, fun other mem => ?_⟩
    · have later := collected.combined other
      rw [operatorsOn_cons]
      by_cases same : parameter = other
      · subst same
        rw [running_insert_self] at later
        rw [if_pos rfl, List.foldlM_append, Except.bind_eq_ok_iff]
        exact ⟨c, first, later⟩
      · rw [running_insert_of_ne c same] at later
        rw [if_neg same, List.nil_append]
        exact later
    · by_cases again : other ∈ Members.keys rest
      · exact collected.consistent other again
      · have same : other = parameter := (List.mem_cons.mp mem).resolve_right again
        have later := collected.combined other
        rw [operatorsOn_of_not_mem again, List.foldlM_nil, Except.pure_eq_ok_iff, same,
          running_insert_self] at later
        rw [same, ← later]
        exact consistent

/-- **Adding a policy is adding to each parameter the operators on it.** -/
theorem addPolicy_eq_ok_iff {added : Policy} (distinct : before.Distinct) :
    before.addPolicy added = .ok after ↔ Collects before added after := by
  obtain ⟨entries⟩ := added
  induction entries generalizing before with
  | nil =>
      constructor
      · intro h
        cases h
        refine ⟨rfl, fun _ => rfl, fun _ mem => ?_⟩
        cases mem
      · rintro ⟨keys, combined, _⟩
        have same : after = before :=
          ext_running distinct keys fun parameter _ => (Except.ok.inj (combined parameter)).symm
        rw [same]
        rfl
  | cons entry rest ih =>
      obtain ⟨parameter, operators⟩ := entry
      rw [collects_cons_iff]
      show (before.addEntry parameter operators >>= fun next => next.addPolicy ⟨rest⟩) = _ ↔ _
      rw [Except.bind_eq_ok_iff]
      constructor
      · rintro ⟨next, first, later⟩
        obtain ⟨c, folded, consistent, rfl⟩ := addEntry_eq_ok_iff.mp first
        exact ⟨c, folded, consistent, (ih (Members.distinct_insert distinct)).mp later⟩
      · rintro ⟨c, folded, consistent, later⟩
        exact ⟨before.insert parameter c, addEntry_eq_ok_iff.mpr ⟨c, folded, consistent, rfl⟩,
          (ih (Members.distinct_insert distinct)).mpr later⟩

/-- Policies are added like one policy that has all their entries. -/
lemma foldlM_addPolicy (policies : List Policy) :
    policies.foldlM addPolicy before = before.addPolicy ⟨policies.flatMap Policy.entries⟩ := by
  induction policies generalizing before with
  | nil => rfl
  | cons policy rest ih =>
      have apart : before.addPolicy ⟨policy.entries ++ rest.flatMap Policy.entries⟩ =
          before.addPolicy policy >>= fun next => next.addPolicy ⟨rest.flatMap Policy.entries⟩ :=
        List.foldlM_append
      rw [List.foldlM_cons, List.flatMap_cons, apart]
      exact bind_congr fun next => ih

lemma operatorsOn_flatMap (policies : List Policy) :
    Policy.operatorsOn parameter ⟨policies.flatMap Policy.entries⟩ =
      policies.flatMap (Policy.operatorsOn parameter) :=
  List.flatMap_assoc

end Combination

end Federation
