import Federation.Proofs.Policy.Editing
import Federation.Proofs.Policy.Settling

/-!
# Applying a policy twice

What a policy has made of metadata it leaves as it is, so it does not matter how often it is applied on
the way.

**One entry.**  An entry that has supplied a value supplies the same value when it finds it there
(`Operators.supply_of_supply`): what is fixed is fixed again, what has been added is not added once more,
and a default is for absent parameters only.  The checks see the value they have passed before, so the
entry settles its parameter in the same way (`Operators.settle_of_settle`).

**Policies.**  Metadata that every entry leaves alone come out as they are, members in their places
(`Policy.apply_of_settled`).  `Policy.reapplied_of_made` puts this together.
-/

namespace Federation

/-- Nothing is added that is there already. -/
lemma unite_of_contained {known new : List Json}
    (contained : ∀ v ∈ new, known.contains v = true) : unite known new = known := by
  induction new with
  | nil => rfl
  | cons v rest ih =>
      rw [unite_eq_enlist, List.enlist_cons, if_pos (contained v List.mem_cons_self),
        ← unite_eq_enlist]
      exact ih fun w mem => contained w (List.mem_cons_of_mem v mem)

/-- Adding a list a second time adds nothing. -/
lemma unite_unite {new : List Json} (known : List Json) (wellFormed : ∀ v ∈ new, v.WellFormed) :
    unite (unite known new) new = unite known new := by
  refine unite_of_contained fun v mem => ?_
  have own : new.contains v = true :=
    List.contains_iff_exists_mem_beq.mpr ⟨v, mem, Json.beq_refl (wellFormed v mem)⟩
  exact List.contains_enlist (fun _ _ _ => Json.beq_trans) own

/-! ### One entry -/

namespace Operators

variable {operators : Operators} {current found : Option Json}

/-- **A value that an entry has supplied is supplied again.** -/
theorem supply_of_supply (configs : ∀ op ∈ operators, op.config.WellFormed)
    (h : operators.supply current = .ok found) : operators.supply found = .ok found := by
  cases fixes : operators.value? with
  | some v =>
      simp only [supply, fixes] at h ⊢
      exact h
  | none =>
      cases adds : operators.add? with
      | some new =>
          obtain ⟨list, rfl, mem⟩ := exists_of_add? adds
          have again := fun known => unite_unite known (ValueList.wellFormed_of_toJson (configs _ mem))
          -- only what becomes an array is left, and it holds the added values already
          have united : ∃ known, found = some (.array (unite known list.values)) := by
            simp only [supply, fixes, adds] at h
            split at h
            · cases h
              exact ⟨[], rfl⟩
            · cases h
              exact ⟨_, rfl⟩
            · cases h
          obtain ⟨known, rfl⟩ := united
          simp only [supply, fixes, adds, again]
      | none =>
          simp only [supply, fixes, adds] at h ⊢
          cases found with
          | some v => rfl
          | none =>
              cases current with
              | none => exact h
              | some v => cases h

lemma eq_none_of_idle (idle : ¬ operators.Acts current) : current = none := by
  rw [Acts, not_or, not_not] at idle
  exact idle.1

/-- **An entry that has settled its parameter settles it in the same way again.** -/
theorem settle_of_settle (configs : ∀ op ∈ operators, op.config.WellFormed)
    (h : operators.settle current = .ok found) : operators.settle found = .ok found := by
  by_cases acts : operators.Acts found
  · have applied : operators.apply current = .ok found := by
      by_cases acted : operators.Acts current
      · rwa [settle_of_acts acted] at h
      · rw [settle_of_idle acted] at h
        cases h
        exact absurd (eq_none_of_idle acted ▸ acts) acted
    have supplied := supply_of_apply applied
    rw [settle_of_acts acts, ← applied, apply, apply, supply_of_supply configs supplied, supplied]
  · rw [settle_of_idle acts, eq_none_of_idle acts]

end Operators

/-! ### Policies -/

namespace Policy

variable {policy : Policy} {metadata out : Members Json}

/-- Metadata that every entry leaves alone are left as they are. -/
lemma apply_of_settled (settled : ∀ entry ∈ policy.entries,
    entry.2.settle (metadata.get? entry.1) = .ok (metadata.get? entry.1)) :
    policy.apply metadata = .ok metadata := by
  obtain ⟨entries⟩ := policy
  induction entries with
  | nil => rfl
  | cons entry rest ih =>
      have here : applyEntry metadata entry.1 entry.2 = .ok metadata :=
        applyEntry_eq_ok_iff.mpr ⟨_, settled entry List.mem_cons_self, metadata.assign_get? entry.1⟩
      rw [apply_cons, here]
      exact ih fun other mem => settled other (List.mem_cons_of_mem entry mem)

/-- **Applying a policy twice is applying it once.**  However a policy has been made, whatever it makes of
metadata it accepts and leaves as it is, with every member in its place. -/
theorem reapplied_of_made (made : policy.Made) (h : policy.apply metadata = .ok out) :
    policy.apply out = .ok out := by
  have regular := made.regular
  refine apply_of_settled fun entry mem => ?_
  exact Operators.settle_of_settle (regular.wellFormed entry mem)
    ((settles_of_apply regular.distinct h).entries entry mem)

/-- The written form of a policy that adds a value twice, removes a parameter, fixes one, only checks one
and fills in one. -/
def replenishing : Json :=
  .object [("contacts", .object [("add", .array [.string "x", .string "x"])]),
    ("scope", .object [("value", .null)]),
    ("client", .object [("value", .string "c"), ("one_of", .array [.string "c"])]),
    ("logo", .object [("subset_of", .array [.string "a"])]),
    ("lang", .object [("default", .string "en"), ("essential", .boolean true)])]

/-- The policy adds, removes, fixes and fills in at its first application, and nothing at its second. -/
theorem reapplied_of_made_replenishing :
    ∃ policy combined out, ofJson replenishing = .ok policy ∧ combine [policy] = .ok combined ∧
      combined.apply [("scope", .string "s"), ("contacts", .array [.string "y"])] = .ok out ∧
      out = [("contacts", .array [.string "y", .string "x"]), ("client", .string "c"),
        ("lang", .string "en")] ∧
      combined.apply out = .ok out := by
  have wellFormed : replenishing.WellFormed := by
    simp [replenishing, Json.WellFormed, Json.AllMembersWellFormed, Json.AllWellFormed,
      Members.Distinct, Members.keys]
  obtain ⟨policy, read, combined, combines, out, applied, members⟩ : ∃ policy,
      ofJson replenishing = .ok policy ∧ ∃ combined, combine [policy] = .ok combined ∧ ∃ out,
      combined.apply [("scope", .string "s"), ("contacts", .array [.string "y"])] = .ok out ∧
      out = [("contacts", .array [.string "y", .string "x"]), ("client", .string "c"),
        ("lang", .string "en")] :=
    ⟨_, rfl, _, rfl, _, rfl, rfl⟩
  have made : combined.Made := .combine (fun p mem => List.mem_singleton.mp mem ▸
    .read wellFormed read) combines
  exact ⟨policy, combined, out, read, combines, applied, members, reapplied_of_made made applied⟩

end Policy

end Federation
