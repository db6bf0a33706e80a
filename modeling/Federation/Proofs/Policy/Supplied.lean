import Federation.Proofs.Policy.Batch
import Federation.Proofs.Policy.Pointwise

/-!
# Values that a policy supplies

Policies are combined only if the value they fix, and the last default, pass the lists of their parameter.
So the combined policy should accept what it supplies itself.  It does with one exception: `one_of` is for
single values, and an array that is listed there is good enough for combining policies and refused when
the policy is applied.

**One entry.**  `Operators.Supplies` says which value an entry supplies to its parameter whatever the
metadata hold; what becomes of it is up to the checks alone (`Operators.settle_of_supplies`).

**Two kinds of checks.**  Lists that admit a value in a combination let it pass when they are applied,
unless it is an array under `one_of` (`Combined.check_of_admits`).

**Policies.**  `Policy.supplied_of_combine` says of every combined policy what becomes of the values it
supplies, and `Policy.offering_refused` shows the exception.
-/

namespace Federation

/-! ### One entry -/

namespace Operators

variable {operators : Operators} {current : Option Json} {v : Json}

/-- The entry itself supplies the value: it fixes it, or the parameter is absent, the value is its default
and nothing is added. -/
def Supplies (operators : Operators) (current : Option Json) (v : Json) : Prop :=
  (operators.value? = some v ∧ v.isNull = false) ∨
    (operators.default? = some v ∧ operators.value? = none ∧ operators.add? = none ∧ current = none)

/-- A value that is supplied has to pass the checks, and then it is the value of the parameter. -/
lemma settle_of_supplies (supplies : operators.Supplies current v) :
    operators.settle current = (operators.check v).map fun _ => some v := by
  have supplied : operators.actsOnAbsent = true ∧ operators.supply current = .ok (some v) := by
    rcases supplies with ⟨fixed, filled⟩ | ⟨last, free, plain, rfl⟩
    · exact ⟨List.any_eq_true.mpr ⟨_, mem_of_value? fixed, rfl⟩, by simp [supply, fixed, filled]⟩
    · exact ⟨List.any_eq_true.mpr ⟨_, mem_of_default? last, rfl⟩, by simp [supply, last, free, plain]⟩
  rw [settle_of_acts (.inr supplied.1), apply, supplied.2]
  show (operators.check v >>= fun _ => .ok (some v)) = _
  cases operators.check v with
  | error reason => rfl
  | ok _ => rfl

end Operators

/-! ### Two kinds of checks -/

/-- **A value that the lists of a combination admit passes when they are applied**, unless it is an array
and there is a list of single values. -/
theorem Combined.check_of_admits {c : Combined} {v : Json} (admits : c.Admits v) :
    c.operators.check v =
      if v.isArray = true ∧ c.oneOf ≠ none then .error .oneOfArray else .ok () := by
  have inside : c.operators.checkSubsetOf v = .ok () :=
    Operators.checkSubsetOf_eq_ok_iff.mpr fun allowed given =>
      admits.subsetOf allowed (c.subsetOf?_operators.symm.trans given)
  have complete : c.operators.checkSupersetOf v = .ok () :=
    Operators.checkSupersetOf_eq_ok_iff.mpr fun required asked =>
      admits.supersetOf required (c.supersetOf?_operators.symm.trans asked)
  have listed : c.operators.checkOneOf v =
      if v.isArray = true ∧ c.oneOf ≠ none then .error .oneOfArray else .ok () := by
    rw [Operators.checkOneOf, c.oneOf?_operators]
    cases given : c.oneOf with
    | none => simp
    | some allowed => simp [admits.oneOf allowed given]
  rw [Operators.check, listed, inside, complete]
  split
  · rfl
  · rfl

/-! ### Policies -/

namespace Policy

variable {policies : List Policy} {policy : Policy} {metadata : Members Json} {parameter : String}
  {operators : Operators} {v : Json}

/-- What a combined policy supplies is admitted by its own lists. -/
lemma check_of_supplies (combined : combine policies = .ok policy)
    (entry : (parameter, operators) ∈ policy.entries)
    (supplies : operators.Supplies (metadata.get? parameter) v) :
    (∀ allowed, operators.oneOf? = some allowed → allowed.contains v = true) ∧
      operators.check v =
        if v.isArray = true ∧ operators.oneOf? ≠ none then .error .oneOfArray else .ok () := by
  obtain ⟨rfl, checked⟩ := merged_of_combine combined
  obtain ⟨named, rfl⟩ := mem_merged.mp entry
  obtain ⟨consistent, last_checked⟩ := checked parameter named
  rw [Operators.Supplies, Combined.value?_operators, Combined.default?_operators] at supplies
  have admits : (said policies parameter).batch.Admits v := by
    rcases supplies with ⟨fixed, filled⟩ | ⟨last, _⟩
    · exact consistent.admitted v fixed filled
    · exact Operators.checkDefault_eq_ok_iff.mp last_checked v last
  rw [Combined.oneOf?_operators]
  exact ⟨admits.oneOf, Combined.check_of_admits admits⟩

/-- **A combined policy accepts the values it supplies, unless they are arrays under `one_of`.**  Where it
supplies another value it never fails on the parameter and sets it to this value.  An array that it
supplies under `one_of` is among the listed values, and yet the policy accepts no metadata with which it
would be set. -/
theorem supplied_of_combine (combined : combine policies = .ok policy)
    (entry : (parameter, operators) ∈ policy.entries)
    (supplies : operators.Supplies (metadata.get? parameter) v) :
    (¬ (v.isArray = true ∧ operators.oneOf? ≠ none) →
      (∀ violation, policy.apply metadata = .error violation → violation.parameter ≠ parameter) ∧
        ∀ out, policy.apply metadata = .ok out → out.get? parameter = some v) ∧
    (v.isArray = true → ∀ allowed, operators.oneOf? = some allowed →
      allowed.contains v = true ∧ (∀ out, policy.apply metadata ≠ .ok out) ∧
        ∀ violation, policy.apply metadata = .error violation → violation.parameter = parameter →
          violation.reason = .oneOfArray) := by
  have distinct : policy.entries.Distinct := (merged_of_combine combined).1 ▸ distinct_merged
  obtain ⟨listed, checked⟩ := check_of_supplies combined entry supplies
  have settled := Operators.settle_of_supplies supplies
  rw [checked] at settled
  have failed : ∀ violation, policy.apply metadata = .error violation →
      violation.parameter = parameter →
      operators.settle (metadata.get? parameter) = .error violation.reason := by
    rintro violation applied rfl
    obtain ⟨operators', entry', failed⟩ := settle_of_apply_eq_error distinct applied
    rw [Members.eq_of_mem distinct entry entry']
    exact failed
  have set : ∀ out, policy.apply metadata = .ok out →
      operators.settle (metadata.get? parameter) = .ok (out.get? parameter) := fun out applied =>
    (settles_of_apply distinct applied).entries _ entry
  constructor
  · intro single
    rw [if_neg single] at settled
    refine ⟨fun violation applied same => ?_, fun out applied => ?_⟩
    · have refused := failed violation applied same
      rw [settled] at refused
      cases refused
    · exact Except.ok.inj ((set out applied).symm.trans settled)
  · intro array allowed given
    rw [if_pos ⟨array, by simp [given]⟩] at settled
    refine ⟨listed allowed given, fun out applied => ?_, fun violation applied same => ?_⟩
    · have accepted := set out applied
      rw [settled] at accepted
      cases accepted
    · exact (Except.error.inj (settled.symm.trans (failed violation applied same))).symm

/-- The written form of a policy that supplies a value and lists it as the only one allowed. -/
def offering (supplier : String) (v : Json) : Json :=
  .object [("grant_types", .object [(supplier, v), ("one_of", .array [v])])]

/-- A default that the list admits is supplied, while a fixed array that the list admits is refused when the
policy is applied. -/
theorem supplied_of_combine_offering :
    (∃ policy combined operators out, ofJson (offering "default" (.string "code")) = .ok policy ∧
      combine [policy] = .ok combined ∧ ("grant_types", operators) ∈ combined.entries ∧
      operators.Supplies (Members.get? [] "grant_types") (.string "code") ∧
      combined.apply [] = .ok out ∧ out.get? "grant_types" = some (.string "code")) ∧
    ∃ policy combined operators,
      ofJson (offering "value" (.array [.string "code"])) = .ok policy ∧
      combine [policy] = .ok combined ∧ ("grant_types", operators) ∈ combined.entries ∧
      operators.Supplies (Members.get? [] "grant_types") (.array [.string "code"]) ∧
      ∀ out, combined.apply [] ≠ .ok out := by
  constructor
  · obtain ⟨policy, merged, operators, out, read, combined, entry, supplies, applied⟩ :
        ∃ policy merged operators out,
        ofJson (offering "default" (.string "code")) = .ok policy ∧
        combine [policy] = .ok merged ∧ ("grant_types", operators) ∈ merged.entries ∧
        operators.Supplies (Members.get? [] "grant_types") (.string "code") ∧
        merged.apply [] = .ok out :=
      ⟨_, _, _, _, rfl, rfl, List.mem_singleton_self _, .inr ⟨rfl, rfl, rfl, rfl⟩, rfl⟩
    have accepted := (supplied_of_combine combined entry supplies).1 (by simp [Json.isArray])
    exact ⟨policy, merged, operators, out, read, combined, entry, supplies, applied,
      accepted.2 out applied⟩
  · obtain ⟨policy, merged, operators, read, combined, entry, supplies, given⟩ :
        ∃ policy merged operators,
        ofJson (offering "value" (.array [.string "code"])) = .ok policy ∧
        combine [policy] = .ok merged ∧ ("grant_types", operators) ∈ merged.entries ∧
        operators.Supplies (Members.get? [] "grant_types") (.array [.string "code"]) ∧
        operators.oneOf? = some [.array [.string "code"]] :=
      ⟨_, _, _, rfl, rfl, List.mem_singleton_self _, .inl ⟨rfl, rfl⟩, rfl⟩
    have refused := (supplied_of_combine combined entry supplies).2 rfl _ given
    exact ⟨policy, merged, operators, read, combined, entry, supplies, refused.2.1⟩

/-- **A listed array is supplied and refused**, whether it is fixed or a default. -/
theorem offering_refused :
    (∃ policy combined operators,
      ofJson (offering "value" (.array [.string "code"])) = .ok policy ∧
      combine [policy] = .ok combined ∧ combined.entries = [("grant_types", operators)] ∧
      operators.Supplies none (.array [.string "code"]) ∧
      combined.apply [] = .error ⟨"grant_types", .oneOfArray⟩) ∧
    ∃ policy combined operators,
      ofJson (offering "default" (.array [.string "code"])) = .ok policy ∧
      combine [policy] = .ok combined ∧ combined.entries = [("grant_types", operators)] ∧
      operators.Supplies none (.array [.string "code"]) ∧
      combined.apply [] = .error ⟨"grant_types", .oneOfArray⟩ :=
  ⟨⟨_, _, _, rfl, rfl, rfl, .inl ⟨rfl, rfl⟩, rfl⟩,
    ⟨_, _, _, rfl, rfl, rfl, .inr ⟨rfl, rfl, rfl, rfl⟩, rfl⟩⟩

end Policy

end Federation
