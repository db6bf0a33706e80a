import Federation.Proofs.Checks
import Federation.Proofs.Json.Equality

/-!
# Policies that are read and written again

Reading a policy loses nothing of it: names, configurations and their order can all be told from the
policy, so writing it gives the value it was read from.

**Operators.**  `Operator.member` is an operator as it stands in its entry, and what is read from a
member is written as that member (`Operator.member_of_ofConfig`).

**Entries and policies.**  Objects do not repeat names, so no operator takes the slot of another one and
every entry is a new one.  `Policy.toJson_of_ofJson` puts this together.

**Well-formed policies.**  `Policy.WellFormed` is what a policy inherits from the value it is read from:
equality of the values in it can be relied on (`Policy.wellFormed_of_ofJson`).
-/

namespace Federation

/-! ### Operators -/

lemma ValueList.toJson_of_ofJson? {config : Json} {list : ValueList}
    (h : ofJson? config = some list) : list.toJson = config := by
  cases config with
  | null => cases h
  | object members => cases h
  | _ =>
      cases h
      rfl

namespace Operator

variable {name : String} {config : Json} {op : Operator}

/-- An operator under its name. -/
def member (op : Operator) : String × Json :=
  (op.name, op.config)

lemma toJson_of_list {list : ValueList} (h : Operator.list config = .ok list) :
    list.toJson = config := by
  unfold Operator.list at h
  split at h
  · rename_i found
    cases h
    exact ValueList.toJson_of_ofJson? found
  · cases h

/-- A list operator is written with the configuration its list was read from. -/
lemma member_of_list {make : ValueList → Operator}
    (written : ∀ list, (make list).member = (name, list.toJson))
    (h : (Operator.list config).map make = .ok op) : op.member = (name, config) := by
  cases read : Operator.list config with
  | error defect =>
      rw [read] at h
      cases h
  | ok list =>
      rw [read] at h
      cases h
      rw [written, toJson_of_list read]

/-- **An operator is written as it was read.** -/
theorem member_of_ofConfig (h : ofConfig name config = .ok op) : op.member = (name, config) := by
  unfold ofConfig at h
  split at h
  · rename_i named
    cases h
    rw [named]
    rfl
  split at h
  · rename_i named
    split at h
    · cases h
    · cases h
      rw [named]
      rfl
  split at h
  · rename_i named
    rw [named]
    exact member_of_list (fun _ => rfl) h
  split at h
  · rename_i named
    rw [named]
    exact member_of_list (fun _ => rfl) h
  split at h
  · rename_i named
    rw [named]
    exact member_of_list (fun _ => rfl) h
  split at h
  · rename_i named
    rw [named]
    exact member_of_list (fun _ => rfl) h
  split at h
  · rename_i named
    split at h
    · cases h
      rw [named]
      rfl
    · cases h
  · cases h
    rfl

end Operator

/-! ### Entries -/

namespace Operators

lemma put_of_fresh {operators : Operators} {op : Operator}
    (fresh : ∀ old ∈ operators, old.name ≠ op.name) : operators.put op = operators ++ [op] := by
  induction operators with
  | nil => rfl
  | cons old rest ih =>
      have elsewhere : ¬ old.sameSlot op = true := by
        intro same
        simp only [Operator.sameSlot, Bool.and_eq_true, beq_iff_eq] at same
        exact fresh old List.mem_cons_self same.2
      rw [put, if_neg elsewhere, ih fun other mem => fresh other (List.mem_cons_of_mem old mem)]
      rfl

end Operators

namespace Policy

/-- Reading appends one operator after the other, as long as no name occurs twice. -/
lemma operators_of_foldlM {parameter : String} {members : Members Json} {before operators : Operators}
    (nodup : (before.map Operator.name ++ members.keys).Nodup)
    (h : members.foldlM (fun operators entry =>
      (operatorOfJson parameter entry.1 entry.2).map operators.put) before = .ok operators) :
    operators.map Operator.member = before.map Operator.member ++ members := by
  induction members generalizing before with
  | nil =>
      rw [List.foldlM_nil, Except.pure_eq_ok_iff] at h
      rw [h, List.append_nil]
  | cons entry rest ih =>
      rw [List.foldlM_cons, Except.bind_eq_ok_iff] at h
      obtain ⟨next, put, later⟩ := h
      cases read : operatorOfJson parameter entry.1 entry.2 with
      | error defect =>
          rw [read] at put
          cases put
      | ok op =>
          rw [read] at put
          have member : op.member = entry :=
            Operator.member_of_ofConfig (Except.mapError_eq_ok_iff.mp read)
          have named : op.name = entry.1 := congrArg Prod.fst member
          have fresh : ∀ old ∈ before, old.name ≠ op.name := by
            intro old mem same
            exact (List.nodup_append.mp nodup).2.2 old.name (List.mem_map_of_mem mem) entry.1
              List.mem_cons_self (same.trans named)
          have appended : next = before ++ [op] :=
            (Except.ok.inj put).symm.trans (Operators.put_of_fresh fresh)
          subst appended
          rw [ih (by simpa [named] using nodup) later]
          simp [member]

lemma operators_of_operatorsOfMembers {parameter : String} {members : Members Json}
    {operators : Operators} (distinct : members.Distinct)
    (h : operatorsOfMembers parameter members = .ok operators) :
    operators.map Operator.member = members := by
  have nodup : (([] : Operators).map Operator.name ++ members.keys).Nodup := distinct
  simpa using operators_of_foldlM nodup h

/-- An entry as it is written. -/
def written (operators : Operators) : Json :=
  .object (operators.map Operator.member)

/-- Reading appends one entry after the other, as long as no name occurs twice. -/
lemma entries_of_foldlM {members : Members Json} {before policy : Policy}
    (nodup : (before.entries.keys ++ members.keys).Nodup)
    (wellFormed : ∀ entry ∈ members, entry.2.WellFormed)
    (h : members.foldlM (fun policy entry =>
      match entry.2 with
      | .object operators => (operatorsOfMembers entry.1 operators).map (policy.putEntry entry.1)
      | _ => .error (.entryNotObject entry.1)) before = .ok policy) :
    policy.entries.mapValues written = before.entries.mapValues written ++ members := by
  induction members generalizing before with
  | nil =>
      rw [List.foldlM_nil, Except.pure_eq_ok_iff] at h
      rw [h, List.append_nil]
  | cons entry rest ih =>
      rw [List.foldlM_cons, Except.bind_eq_ok_iff] at h
      obtain ⟨next, put, later⟩ := h
      obtain ⟨parameter, value⟩ := entry
      cases value with
      | object members =>
          cases read : operatorsOfMembers parameter members with
          | error defect =>
              simp only [read] at put
              cases put
          | ok operators =>
              simp only [read] at put
              have distinct : Members.Distinct members := (wellFormed _ List.mem_cons_self).1
              have kept := operators_of_operatorsOfMembers distinct read
              have fresh : parameter ∉ before.entries.keys := by
                intro mem
                exact (List.nodup_append.mp nodup).2.2 _ mem _ List.mem_cons_self rfl
              have appended : next.entries = before.entries ++ [(parameter, operators)] := by
                rw [← Except.ok.inj put]
                exact Members.insert_of_not_mem fresh
              rw [ih (by simpa [appended, Members.keys] using nodup)
                (fun entry mem => wellFormed entry (List.mem_cons_of_mem _ mem)) later, appended]
              simp [Members.mapValues, written, kept]
      | _ => cases put

/-! ### Policies -/

variable {value : Json} {policy : Policy}

/-- What is read from an object has its members as entries. -/
lemma entries_of_ofJson (wellFormed : value.WellFormed) (h : ofJson value = .ok policy) :
    value = .object (policy.entries.mapValues written) := by
  cases value with
  | object members =>
      have nodup : (empty.entries.keys ++ Members.keys members).Nodup := wellFormed.1
      have entries := entries_of_foldlM nodup
        (Json.allMembersWellFormed_iff.mp wellFormed.2) h
      rw [entries]
      rfl
  | _ => cases h

/-- **A policy is written as it was read.** -/
theorem toJson_of_ofJson (wellFormed : value.WellFormed) (h : ofJson value = .ok policy) :
    policy.toJson = value := by
  have read := entries_of_ofJson wellFormed h
  rw [read] at wellFormed
  obtain ⟨distinct, members⟩ := wellFormed
  have each : policy.entries.mapValues Operators.toJson = policy.entries.mapValues written := by
    refine List.map_congr_left fun entry mem => ?_
    have single : (written entry.2).WellFormed :=
      Json.allMembersWellFormed_iff.mp members _ (List.mem_map_of_mem mem)
    have kept : Members.ofList (entry.2.map Operator.member) = entry.2.map Operator.member :=
      Members.ofList_of_distinct single.1
    exact congrArg (fun members => (entry.1, Json.object members)) kept
  rw [read, toJson, each, Members.ofList_of_distinct distinct]

/-- The configurations in the policy are well-formed values. -/
def WellFormed (policy : Policy) : Prop :=
  ∀ entry ∈ policy.entries, ∀ op ∈ entry.2, op.config.WellFormed

lemma wellFormed_of_ofJson (wellFormed : value.WellFormed) (h : ofJson value = .ok policy) :
    policy.WellFormed := by
  rw [entries_of_ofJson wellFormed h] at wellFormed
  intro entry mem op op_mem
  have single : (written entry.2).WellFormed :=
    Json.allMembersWellFormed_iff.mp wellFormed.2 _ (List.mem_map_of_mem mem)
  exact Json.allMembersWellFormed_iff.mp single.2 _ (List.mem_map_of_mem op_mem)

end Policy

end Federation
