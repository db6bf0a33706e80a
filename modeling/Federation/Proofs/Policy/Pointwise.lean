import Federation.Proofs.Policy.Editing

/-!
# Applying a policy parameter by parameter

Each entry settles its own parameter by the value that the metadata have for it, so the order of the entries
can be seen in the order of new parameters only.

**Well-formed results.**  What is supplied to a parameter comes from the policy or was there before
(`Operators.wellFormed_of_supply`), so equality of the values in a result can be relied on.

**Order.**  Entries in another order settle every parameter in the same way, so the two objects have the
same members (`Policy.Settles.perm`) and are equal values.  `Policy.pointwise_of_made` puts this together.
-/

namespace Federation

/-! ### Entries -/

namespace Operators

variable {operators : Operators} {current found : Option Json}

/-- What is supplied to a parameter is well-formed if the configurations are. -/
lemma wellFormed_of_supply (configs : ∀ op ∈ operators, op.config.WellFormed)
    (wellFormed : ∀ v, current = some v → v.WellFormed) (h : operators.supply current = .ok found) :
    ∀ v, found = some v → v.WellFormed := by
  rintro v rfl
  unfold supply at h
  split at h
  · rename_i fixed is_fixed
    split at h
    · cases h
    · cases h
      exact configs _ (mem_of_value? is_fixed)
  · split at h
    · rename_i new adds
      obtain ⟨list, rfl, mem⟩ := exists_of_add? adds
      have hnew := ValueList.wellFormed_of_toJson (configs _ mem)
      have united : ∀ items : List Json, (∀ w ∈ items, w.WellFormed) →
          (Json.array (unite items list.values)).WellFormed := fun items known =>
        Json.allWellFormed_iff.mpr (wellFormed_unite known hnew)
      split at h
      · cases h
        exact united [] (by simp)
      · rename_i items
        cases h
        exact united items (Json.allWellFormed_iff.mp (wellFormed _ rfl))
      · cases h
    · split at h
      · exact configs _ (mem_of_default? (Except.ok.inj h))
      · cases h
        exact wellFormed _ rfl

lemma wellFormed_of_settle (configs : ∀ op ∈ operators, op.config.WellFormed)
    (wellFormed : ∀ v, current = some v → v.WellFormed) (h : operators.settle current = .ok found) :
    ∀ v, found = some v → v.WellFormed := by
  rw [settle] at h
  split at h
  · cases h
    exact wellFormed
  · exact wellFormed_of_supply configs wellFormed (supply_of_apply h)

end Operators

/-! ### Policies -/

namespace Policy

variable {policy other : Policy} {metadata out out' : Members Json}

namespace Settles

/-- The names in the result are distinct, as those of the metadata and of the policy are. -/
lemma distinct (settles : policy.Settles metadata out) (policy_distinct : policy.entries.Distinct)
    (metadata_distinct : metadata.Distinct) : out.Distinct := by
  rw [Members.Distinct, settles.keys, List.nodup_append]
  refine ⟨metadata_distinct.filter _, policy_distinct.filter _, fun name mem name' mem' same => ?_⟩
  subst same
  have present := Members.has_iff.mpr (List.mem_filter.mp mem).1
  simp [present] at mem'

/-- Two results for entries of the same parameters and operators have the same values. -/
lemma get?_eq (settles : policy.Settles metadata out) (settles' : other.Settles metadata out')
    (perm : other.entries.Perm policy.entries) (name : String) : out'.get? name = out.get? name := by
  by_cases named : name ∈ policy.entries.keys
  · obtain ⟨entry, mem, rfl⟩ := List.mem_map.mp named
    exact Except.ok.inj ((settles'.entries entry (perm.mem_iff.mpr mem)).symm.trans
      (settles.entries entry mem))
  · have unnamed : name ∉ other.entries.keys := fun mem =>
      named ((perm.map Prod.fst).mem_iff.mp mem)
    rw [settles.others name named, settles'.others name unnamed]

/-- **The order of the entries matters for the order of the members only.** -/
theorem perm (settles : policy.Settles metadata out) (settles' : other.Settles metadata out')
    (perm : other.entries.Perm policy.entries) (policy_distinct : policy.entries.Distinct)
    (metadata_distinct : metadata.Distinct) : out'.Perm out := by
  have other_distinct : other.entries.Distinct := (perm.map Prod.fst).nodup_iff.mpr policy_distinct
  exact Members.perm_of_get? (settles'.distinct other_distinct metadata_distinct)
    (settles.distinct policy_distinct metadata_distinct) (settles.get?_eq settles' perm)

/-- What a regular policy makes of well-formed metadata is well-formed. -/
lemma wellFormed (settles : policy.Settles metadata out) (regular : policy.Regular)
    (wellFormed : (Json.object metadata).WellFormed) : (Json.object out).WellFormed := by
  have distinct := settles.distinct regular.distinct wellFormed.1
  refine ⟨distinct, Json.allMembersWellFormed_iff.mpr fun entry mem => ?_⟩
  have found : out.get? entry.1 = some entry.2 := Members.get?_of_mem distinct mem
  have known : ∀ v, metadata.get? entry.1 = some v → v.WellFormed := fun _ =>
    Json.wellFormed_of_get? wellFormed
  by_cases named : entry.1 ∈ policy.entries.keys
  · obtain ⟨⟨parameter, operators⟩, listed, same⟩ := List.mem_map.mp named
    have settled := settles.entries _ listed
    rw [show parameter = entry.1 from same] at settled
    exact Operators.wellFormed_of_settle (regular.wellFormed _ listed) known settled entry.2 found
  · exact known entry.2 ((settles.others entry.1 named).symm.trans found)

end Settles

/-- **Applying a policy is pointwise.**  It succeeds if every entry that acts succeeds on the value that
the metadata have for its parameter; each parameter is settled by this value and its own entry alone, and
keeps its place or is new at the end.  A policy with the same entries in another order accepts the same
metadata and gives an equal object. -/
theorem pointwise_of_made (made : policy.Made) (wellFormed : (Json.object metadata).WellFormed) :
    ((∃ out, policy.apply metadata = .ok out) ↔
      ∀ entry ∈ policy.entries, entry.2.Acts (metadata.get? entry.1) →
        ∃ found, entry.2.apply (metadata.get? entry.1) = .ok found) ∧
    (∀ out, policy.apply metadata = .ok out → policy.Settles metadata out) ∧
    ∀ other : Policy, other.entries.Perm policy.entries →
      ((∃ out, other.apply metadata = .ok out) ↔ ∃ out, policy.apply metadata = .ok out) ∧
      ∀ out out', policy.apply metadata = .ok out → other.apply metadata = .ok out' →
        out'.Perm out ∧ (Json.object out' == Json.object out) = true := by
  have regular := made.regular
  refine ⟨exists_apply_iff regular.distinct, fun out => settles_of_apply regular.distinct,
    fun other perm => ?_⟩
  have distinct' : other.entries.Distinct := (perm.map Prod.fst).nodup_iff.mpr regular.distinct
  constructor
  · rw [exists_apply_iff distinct', exists_apply_iff regular.distinct]
    exact ⟨fun each entry mem => each entry (perm.mem_iff.mpr mem),
      fun each entry mem => each entry (perm.mem_iff.mp mem)⟩
  · intro out out' applied applied'
    have settles := settles_of_apply regular.distinct applied
    have reordered := settles.perm (settles_of_apply distinct' applied') perm regular.distinct
      wellFormed.1
    exact ⟨reordered, Json.object_beq_of_perm (settles.wellFormed regular wellFormed) reordered⟩

/-- The written form of a policy that adds one parameter, removes one, only checks one and fills in
one. -/
def arranging : Json :=
  .object [("contacts", .object [("add", .string "x")]), ("scope", .object [("value", .null)]),
    ("logo", .object [("subset_of", .array [.string "a"])]),
    ("lang", .object [("default", .string "en")])]

/-- In the reverse order the entries make the same object, with its new parameters the other way round. -/
theorem pointwise_of_made_arranging :
    ∃ policy out out', ofJson arranging = .ok policy ∧
      policy.apply [("scope", .string "s"), ("client", .string "c")] = .ok out ∧
      apply ⟨policy.entries.reverse⟩ [("scope", .string "s"), ("client", .string "c")] = .ok out' ∧
      out.keys = ["client", "contacts", "lang"] ∧ out'.keys = ["client", "lang", "contacts"] ∧
      policy.Settles [("scope", .string "s"), ("client", .string "c")] out ∧
      (Json.object out' == Json.object out) = true := by
  have wellFormed : arranging.WellFormed := by
    simp [arranging, Json.WellFormed, Json.AllMembersWellFormed, Json.AllWellFormed,
      Members.Distinct, Members.keys]
  have wellFormed' : (Json.object [("scope", .string "s"), ("client", .string "c")]).WellFormed := by
    simp [Json.WellFormed, Json.AllMembersWellFormed, Members.Distinct, Members.keys]
  obtain ⟨policy, read, out, applied, out', applied', keys, keys'⟩ : ∃ policy,
      ofJson arranging = .ok policy ∧
      ∃ out, policy.apply [("scope", .string "s"), ("client", .string "c")] = .ok out ∧
      ∃ out', apply ⟨policy.entries.reverse⟩ [("scope", .string "s"), ("client", .string "c")] =
        .ok out' ∧
      out.keys = ["client", "contacts", "lang"] ∧ out'.keys = ["client", "lang", "contacts"] :=
    ⟨_, rfl, _, rfl, _, rfl, rfl, rfl⟩
  obtain ⟨_, settles, reordered⟩ := pointwise_of_made (.read wellFormed read) wellFormed'
  exact ⟨policy, out, out', read, applied, applied', keys, keys', settles out applied,
    ((reordered _ (List.reverse_perm policy.entries)).2 out out' applied applied').2⟩

end Policy

end Federation
