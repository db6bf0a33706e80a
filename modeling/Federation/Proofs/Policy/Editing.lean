import Federation.Proofs.Json.Reading
import Federation.Proofs.Policy.Levels

/-!
# Policies that are edited

A policy is read, changed operator by operator or entry by entry, and combined with others.  Whatever has
been done to it, it can be written, and what is written is read as the same policy.

**Operators.**  `Operator.Read` says that an operator comes from a written one; it is then read back
from what is written for it (`Operator.read_iff`).  An operator that is not implemented never has the
name of one that is, so two operators share a slot just in case they have one name
(`Operator.Read.sameSlot_iff`).

**Regular policies.**  `Policy.Regular` is what every change keeps: no name twice, and no operator that
was not read.  Regular policies are canonical (`Policy.Regular.canonical`) and are read as they are written
(`Policy.Regular.ofJson_toJson`).

**Combinations.**  `Combined.Regular` is the same for the running combination of a parameter.  Joining
keeps it (`Combined.Joins.regular`), so combining policies does.

**Histories.**  `Policy.Made` lists the ways in which a policy comes about, and `Policy.Made.regular` goes
through them.  `Policy.reread_of_made` is the round trip.
-/

namespace Federation

/-! ### Operators -/

namespace Operator

variable {name : String} {config : Json} {op other : Operator}

/-- The operator was read from a name and a configuration. -/
def Read (op : Operator) : Prop :=
  ∃ name config, Json.WellFormed config ∧ ofConfig name config = .ok op

/-- An operator that was read is read from what is written for it. -/
lemma read_iff : op.Read ↔ op.config.WellFormed ∧ ofConfig op.name op.config = .ok op := by
  constructor
  · rintro ⟨name, config, wellFormed, h⟩
    have written : (op.name, op.config) = (name, config) := member_of_ofConfig h
    obtain ⟨named, configured⟩ := Prod.mk.inj written
    rw [named, configured]
    exact ⟨wellFormed, h⟩
  · rintro ⟨wellFormed, h⟩
    exact ⟨op.name, op.config, wellFormed, h⟩

lemma isRecognized_eq_false_iff : isRecognized name = false ↔
    name ≠ Kind.value.name ∧ name ≠ Kind.default.name ∧ name ≠ Kind.add.name ∧
      name ≠ Kind.oneOf.name ∧ name ≠ Kind.subsetOf.name ∧ name ≠ Kind.supersetOf.name ∧
        name ≠ Kind.essential.name := by
  simp [isRecognized, recognizedNames]

/-- An operator under a recognized name is not taken for one that is not implemented. -/
lemma unrecognized_of_ofConfig {written : Json} {unknown : String}
    (h : ofConfig name config = .ok (.unknown unknown written)) : isRecognized name = false := by
  unfold ofConfig at h
  split at h
  · cases h
  split at h
  · split at h
    · cases h
    · cases h
  split at h
  · obtain ⟨_, _, same⟩ := Except.map_eq_ok_iff.mp h
    cases same
  split at h
  · obtain ⟨_, _, same⟩ := Except.map_eq_ok_iff.mp h
    cases same
  split at h
  · obtain ⟨_, _, same⟩ := Except.map_eq_ok_iff.mp h
    cases same
  split at h
  · obtain ⟨_, _, same⟩ := Except.map_eq_ok_iff.mp h
    cases same
  split at h
  · split at h
    · cases h
    · cases h
  · rename_i h₁ h₂ h₃ h₄ h₅ h₆ h₇
    exact isRecognized_eq_false_iff.mpr ⟨h₁, h₂, h₃, h₄, h₅, h₆, h₇⟩

lemma Kind.name_injective {a b : Kind} (same : a.name = b.name) : a = b := by
  cases a <;> cases b <;> first | rfl | exact absurd same (by decide)

lemma Kind.isRecognized_name {kind : Kind} (known : kind ≠ .unknown) :
    isRecognized kind.name = true := by
  cases kind with
  | unknown => exact absurd rfl known
  | _ => decide

lemma name_of_kind_ne (known : op.kind ≠ .unknown) : op.name = op.kind.name := by
  cases op with
  | unknown name config => exact absurd rfl known
  | _ => rfl

/-- The name of an operator tells whether it is implemented. -/
lemma Read.isRecognized_iff (read : op.Read) : isRecognized op.name = true ↔ op.kind ≠ .unknown := by
  constructor
  · intro recognized unknown
    cases op with
    | unknown name config =>
        have unrecognized := unrecognized_of_ofConfig (read_iff.mp read).2
        rw [recognized] at unrecognized
        cases unrecognized
    | _ => cases unknown
  · intro known
    rw [name_of_kind_ne known]
    exact Kind.isRecognized_name known

/-- **Operators that were read share a slot if they have one name.** -/
theorem Read.sameSlot_iff (read : op.Read) (read' : other.Read) :
    op.sameSlot other = true ↔ op.name = other.name := by
  simp only [sameSlot, Bool.and_eq_true, decide_eq_true_eq, beq_iff_eq]
  refine and_iff_right_of_imp fun same => ?_
  have alike : op.kind ≠ .unknown ↔ other.kind ≠ .unknown := by
    rw [← read.isRecognized_iff, ← read'.isRecognized_iff, same]
  by_cases known : op.kind = .unknown
  · rw [known, not_not.mp (mt alike.mpr (not_not.mpr known))]
  · rw [name_of_kind_ne known, name_of_kind_ne (alike.mp known)] at same
    exact Kind.name_injective same

/-- A default that was read is not null. -/
lemma Read.isNull_default {v : Json} (read : (Operator.default v).Read) : v.isNull = false := by
  have h : (if v.isNull then .error ConfigDefect.nullDefault else .ok (.default v)) =
      Except.ok (Operator.default v) := (read_iff.mp read).2
  cases null : v.isNull with
  | false => rfl
  | true =>
      rw [null] at h
      cases h

end Operator

/-! ### Entries -/

namespace Operators

variable {operators before : Operators} {op : Operator}

/-- Operators that were read, no two of one name. -/
structure Regular (operators : Operators) : Prop where
  read : ∀ op ∈ operators, op.Read
  names : (operators.map Operator.name).Nodup

lemma regular_nil : Regular [] where
  read := fun _ mem => by cases mem
  names := List.nodup_nil

lemma eq_or_mem_of_mem_put {other : Operator} (mem : other ∈ operators.put op) :
    other = op ∨ other ∈ operators := by
  refine Members.eq_or_mem_of_puts (put · op) rfl (fun old rest => ?_) mem
  dsimp only [put]
  split
  · exact .inl rfl
  · exact .inr (.inr rfl)

/-- An operator takes the place of one of its name or goes to the end. -/
lemma map_name_put (read : ∀ old ∈ operators, old.Read) (op_read : op.Read) :
    (operators.put op).map Operator.name = List.enlist (operators.map Operator.name) [op.name] := by
  rw [List.enlist_cons, List.enlist_nil]
  simp only [List.contains_iff_mem]
  induction operators with
  | nil => rfl
  | cons old rest ih =>
      have slot := (read old List.mem_cons_self).sameSlot_iff op_read
      have later := ih fun other mem => read other (List.mem_cons_of_mem old mem)
      rw [put]
      by_cases same : old.name = op.name
      · simp [slot.mpr same, same]
      · rw [if_neg (mt slot.mp same), List.map_cons, later]
        by_cases listed : op.name ∈ rest.map Operator.name
        · simp [listed]
        · simp [listed, Ne.symm same]

lemma Regular.put (regular : operators.Regular) (op_read : op.Read) : (operators.put op).Regular where
  read := fun other mem => by
    rcases eq_or_mem_of_mem_put mem with rfl | mem
    · exact op_read
    · exact regular.read other mem
  names := by
    rw [map_name_put regular.read op_read, List.enlist_cons, List.enlist_nil]
    split
    · exact regular.names
    · rename_i fresh
      rw [List.contains_iff_mem] at fresh
      rw [← List.concat_eq_append]
      exact regular.names.concat fresh

lemma Regular.foldl_put (regular : before.Regular) (each : ∀ op ∈ operators, op.Read) :
    Regular (operators.foldl Operators.put before) := by
  induction operators generalizing before with
  | nil => exact regular
  | cons op rest ih =>
      exact ih (regular.put (each op List.mem_cons_self)) fun other mem =>
        each other (List.mem_cons_of_mem op mem)

end Operators

/-! ### Policies -/

namespace Policy

variable {policy : Policy} {parameter : String} {operators before : Operators} {op : Operator}

/-- No parameter has two entries, and all entries are regular. -/
structure Regular (policy : Policy) : Prop where
  distinct : policy.entries.Distinct
  entries : ∀ entry ∈ policy.entries, Operators.Regular entry.2

lemma regular_empty : empty.Regular where
  distinct := List.nodup_nil
  entries := fun _ mem => by cases mem

/-- What was read has well-formed configurations. -/
lemma Regular.wellFormed (regular : policy.Regular) : policy.WellFormed := fun entry mem op op_mem =>
  (Operator.read_iff.mp ((regular.entries entry mem).read op op_mem)).1

lemma Regular.get? (regular : policy.Regular) (found : policy.get? parameter = some operators) :
    operators.Regular :=
  regular.entries (parameter, operators) (Members.mem_of_get? found)

lemma Regular.putEntry (regular : policy.Regular) (entry_regular : operators.Regular) :
    (policy.putEntry parameter operators).Regular where
  distinct := Members.distinct_insert regular.distinct
  entries := fun entry mem => by
    rcases Members.eq_or_mem_of_mem_insert mem with rfl | mem
    · exact entry_regular
    · exact regular.entries entry mem

lemma Regular.put (regular : policy.Regular) (read : op.Read) :
    (policy.put parameter op).Regular := by
  refine regular.putEntry (Operators.Regular.put ?_ read)
  cases found : policy.get? parameter with
  | none => exact Operators.regular_nil
  | some operators => exact regular.get? found

lemma Regular.erase (regular : policy.Regular) : (policy.erase parameter).Regular where
  distinct := Members.distinct_erase regular.distinct
  entries := fun entry mem => regular.entries entry (List.mem_filter.mp mem).1

lemma regular_of_operatorsOfMembers {members : Members Json}
    (wellFormed : ∀ entry ∈ members, entry.2.WellFormed)
    (h : operatorsOfMembers parameter members = .ok operators) : operators.Regular := by
  refine List.foldlM_induction (P := Operators.Regular) h Operators.regular_nil ?_
  intro entry mem before after regular put
  obtain ⟨op, read, rfl⟩ := Except.map_eq_ok_iff.mp put
  exact regular.put ⟨entry.1, entry.2, wellFormed entry mem, Except.mapError_eq_ok_iff.mp read⟩

/-- **A policy that is read is regular**, if no object in the value repeats a name. -/
theorem regular_of_ofJson {value : Json} (wellFormed : value.WellFormed)
    (h : ofJson value = .ok policy) : policy.Regular := by
  cases value with
  | object members =>
      refine List.foldlM_induction (P := Regular) h regular_empty ?_
      intro entry mem before after regular put
      obtain ⟨name, written⟩ := entry
      have well := Json.allMembersWellFormed_iff.mp wellFormed.2 _ mem
      cases written with
      | object members =>
          obtain ⟨operators, read, rfl⟩ := Except.map_eq_ok_iff.mp put
          exact regular.putEntry
            (regular_of_operatorsOfMembers (Json.allMembersWellFormed_iff.mp well.2) read)
      | _ => cases put
  | _ => cases h

/-- **Regular policies are canonical**: operators of different names do not share a slot. -/
theorem Regular.canonical (regular : policy.Regular) : policy.Canonical := by
  refine ⟨regular.distinct, fun entry mem => ?_⟩
  have each := (regular.entries entry mem).read
  have apart : entry.2.Pairwise fun a b => a.name ≠ b.name :=
    List.pairwise_map.mp (regular.entries entry mem).names
  refine apart.imp_of_mem fun a_mem b_mem differs => ?_
  exact Bool.eq_false_iff.mpr (mt ((each _ a_mem).sameSlot_iff (each _ b_mem)).mp differs)

/-- Reading the operators of an entry puts them one after the other. -/
lemma foldlM_members (regular : Operators.Regular (before ++ operators)) :
    (operators.map Operator.member).foldlM (fun operators entry =>
      (operatorOfJson parameter entry.1 entry.2).map operators.put) before =
        .ok (before ++ operators) := by
  induction operators generalizing before with
  | nil =>
      rw [List.append_nil]
      rfl
  | cons op rest ih =>
      have reread := (Operator.read_iff.mp (regular.read op (by simp))).2
      have read : operatorOfJson parameter op.name op.config = .ok op :=
        Except.mapError_eq_ok_iff.mpr reread
      have fresh : ∀ old ∈ before, old.name ≠ op.name := by
        have apart := regular.names
        rw [List.map_append, List.nodup_append] at apart
        exact fun old mem => apart.2.2 _ (List.mem_map_of_mem mem) _ List.mem_cons_self
      have regular' : Operators.Regular (before ++ [op] ++ rest) := by simpa using regular
      have later := ih regular'
      rw [List.map_cons, List.foldlM_cons, Operator.member, read]
      show List.foldlM _ (before.put op) _ = _
      rw [Operators.put_of_fresh fresh, later, List.append_assoc]
      rfl

lemma operatorsOfMembers_toJson (parameter : String) (regular : operators.Regular) :
    ∃ members, operators.toJson = .object members ∧
      operatorsOfMembers parameter members = .ok operators := by
  have distinct : Members.Distinct (operators.map Operator.member) := by
    have same : Members.keys (operators.map Operator.member) = operators.map Operator.name :=
      List.map_map
    rw [Members.Distinct, same]
    exact regular.names
  refine ⟨operators.map Operator.member, ?_, foldlM_members regular⟩
  exact congrArg Json.object (Members.ofList_of_distinct distinct)

/-- Reading the entries of a policy puts one after the other. -/
lemma foldlM_entries {rest : Members Operators}
    (regular : Regular ⟨policy.entries ++ rest⟩) :
    (rest.mapValues Operators.toJson).foldlM (fun policy entry =>
      match entry.2 with
      | .object operators => (operatorsOfMembers entry.1 operators).map (policy.putEntry entry.1)
      | _ => .error (.entryNotObject entry.1)) policy = .ok ⟨policy.entries ++ rest⟩ := by
  induction rest generalizing policy with
  | nil =>
      rw [List.append_nil]
      rfl
  | cons entry rest ih =>
      obtain ⟨members, written, read⟩ :=
        operatorsOfMembers_toJson entry.1 (regular.entries entry (by simp))
      have fresh : entry.1 ∉ policy.entries.keys := by
        intro mem
        have apart := regular.distinct
        rw [Members.Distinct, Members.keys, List.map_append, List.nodup_append] at apart
        exact apart.2.2 _ mem _ List.mem_cons_self rfl
      have appended : policy.putEntry entry.1 entry.2 = ⟨policy.entries ++ [entry]⟩ :=
        congrArg mk (Members.insert_of_not_mem fresh)
      have regular' : Regular ⟨policy.entries ++ [entry] ++ rest⟩ := by simpa using regular
      have later := ih regular'
      rw [Members.mapValues, List.map_cons, List.foldlM_cons, written]
      show ((operatorsOfMembers entry.1 members).map (policy.putEntry entry.1) >>= fun policy =>
        List.foldlM _ policy (Members.mapValues Operators.toJson rest)) = _
      rw [read, Except.map, appended]
      show List.foldlM _ _ (Members.mapValues Operators.toJson rest) = _
      rw [later, List.append_assoc]
      rfl

/-- **A regular policy is read from what is written for it.** -/
theorem Regular.ofJson_toJson (regular : policy.Regular) : ofJson policy.toJson = .ok policy := by
  have distinct : (policy.entries.mapValues Operators.toJson).Distinct := by
    rw [Members.Distinct, Members.keys_mapValues]
    exact regular.distinct
  rw [toJson, Members.ofList_of_distinct distinct]
  have from_empty : Regular ⟨empty.entries ++ policy.entries⟩ := regular
  exact foldlM_entries from_empty

end Policy

/-! ### Combinations -/

/-- Uniting well-formed values gives well-formed values. -/
lemma wellFormed_unite {known new : List Json} (hknown : ∀ v ∈ known, v.WellFormed)
    (hnew : ∀ v ∈ new, v.WellFormed) : ∀ v ∈ unite known new, v.WellFormed := fun v mem =>
  (List.mem_append.mp (unite_subset known new mem)).elim (hknown v) (hnew v)

namespace Combined

variable {a b c : Combined} {op : Operator} {operators : Operators}

/-- The operators of the combination can be written and read back. -/
structure Regular (c : Combined) : Prop where
  value : ∀ v, c.value = some v → v.WellFormed
  add : ∀ values, c.add = some values → ∀ v ∈ values, v.WellFormed
  default : ∀ v, c.default = some v → v.isNull = false ∧ v.WellFormed
  oneOf : ∀ values, c.oneOf = some values → ∀ v ∈ values, v.WellFormed
  subsetOf : ∀ values, c.subsetOf = some values → ∀ v ∈ values, v.WellFormed
  supersetOf : ∀ values, c.supersetOf = some values → ∀ v ∈ values, v.WellFormed
  unknown : ∀ entry ∈ c.unknown, (Operator.unknown entry.1 entry.2).Read
  distinct : c.unknown.Distinct

lemma regular_empty : empty.Regular where
  value := by simp [empty]
  add := by simp [empty]
  default := by simp [empty]
  oneOf := by simp [empty]
  subsetOf := by simp [empty]
  supersetOf := by simp [empty]
  unknown := by simp [empty]
  distinct := List.nodup_nil

lemma Joins.regular (joins : Joins a b c) (ha : a.Regular) (hb : b.Regular) : c.Regular where
  value := joins.value.induction (fun _ _ _ agrees first _ => agrees.2 ▸ first) ha.value hb.value
  add := joins.add.induction (fun _ _ _ united first second => united ▸ wellFormed_unite first second)
    ha.add hb.add
  default := joins.default.induction (fun _ _ _ last _ second => last ▸ second) ha.default hb.default
  oneOf := joins.oneOf.induction
    (fun _ _ _ common first _ v mem => first v (List.mem_filter.mp (common.1 ▸ mem)).1) ha.oneOf
    hb.oneOf
  subsetOf := joins.subsetOf.induction
    (fun _ _ _ common first _ v mem => first v (List.mem_filter.mp (common.1 ▸ mem)).1) ha.subsetOf
    hb.subsetOf
  supersetOf := joins.supersetOf.induction
    (fun _ _ _ united first second => united ▸ wellFormed_unite first second) ha.supersetOf
    hb.supersetOf
  unknown := fun entry mem => by
    rw [← joins.unknown] at mem
    exact (Members.mem_of_mem_foldl_insert mem).elim (ha.unknown entry) (hb.unknown entry)
  distinct := by
    rw [← joins.unknown]
    exact Members.distinct_foldl_insert ha.distinct

lemma regular_single (read : op.Read) : (single op).Regular := by
  have wellFormed := (Operator.read_iff.mp read).1
  have united : ∀ list : ValueList, list.toJson.WellFormed →
      ∀ v ∈ unite [] list.values, v.WellFormed := fun list well =>
    wellFormed_unite (by simp) (ValueList.wellFormed_of_toJson well)
  cases op with
  | value v =>
      refine { regular_empty with value := fun u same => ?_ }
      cases same
      exact wellFormed
  | add list =>
      refine { regular_empty with add := fun values same => ?_ }
      cases same
      exact united list wellFormed
  | default v =>
      refine { regular_empty with default := fun u same => ?_ }
      cases same
      exact ⟨read.isNull_default, wellFormed⟩
  | oneOf list =>
      refine { regular_empty with oneOf := fun values same => ?_ }
      cases same
      exact united list wellFormed
  | subsetOf list =>
      refine { regular_empty with subsetOf := fun values same => ?_ }
      cases same
      exact united list wellFormed
  | supersetOf list =>
      refine { regular_empty with supersetOf := fun values same => ?_ }
      cases same
      exact united list wellFormed
  | essential required => exact { regular_empty with }
  | unknown name config =>
      exact { regular_empty with
        unknown := fun entry mem => by
          cases List.mem_singleton.mp mem
          exact read
        distinct := by simp [single, Members.Distinct] }

lemma regular_of_foldlM (regular : a.Regular) (each : ∀ op ∈ operators, op.Read)
    (h : operators.foldlM combine a = .ok c) : c.Regular :=
  List.foldlM_induction (P := Regular) h regular fun op mem _ _ before combined =>
    (combine_eq_ok_iff.mp combined).regular before (regular_single (each op mem))

lemma names_part {α : Type} {part : Option α} {make : α → Operator} (kind : Operator.Kind)
    (named : ∀ x, (make x).name = kind.name) :
    ((part.map make).toList.map Operator.name).Sublist [kind.name] := by
  cases part with
  | none => exact List.nil_sublist _
  | some x => simp [named]

/-- The known operators of a combination come first, in a fixed order. -/
lemma names_sublist (c : Combined) : (c.operators.map Operator.name).Sublist
    ([Operator.Kind.value.name] ++ [Operator.Kind.add.name] ++ [Operator.Kind.default.name] ++
      [Operator.Kind.oneOf.name] ++ [Operator.Kind.subsetOf.name] ++
      [Operator.Kind.supersetOf.name] ++ [Operator.Kind.essential.name] ++ c.unknown.keys) := by
  have unknown : (c.unknown.map fun entry => Operator.unknown entry.1 entry.2).map Operator.name =
      c.unknown.keys := List.map_map
  simp only [operators, List.map_append, unknown]
  refine .append (.append (.append (.append (.append (.append (.append ?_ ?_) ?_) ?_) ?_) ?_) ?_)
    (.refl _)
  · exact names_part .value fun _ => rfl
  · exact names_part .add fun _ => rfl
  · exact names_part .default fun _ => rfl
  · exact names_part .oneOf fun _ => rfl
  · exact names_part .subsetOf fun _ => rfl
  · exact names_part .supersetOf fun _ => rfl
  · exact names_part .essential fun _ => rfl

lemma Regular.read_operators (regular : c.Regular) (mem : op ∈ c.operators) : op.Read := by
  have many : ∀ values : List Json, (∀ v ∈ values, v.WellFormed) → (Json.array values).WellFormed :=
    fun values => Json.allWellFormed_iff.mpr
  cases op with
  | value v =>
      have found : c.value = some v := by simpa [operators] using mem
      exact ⟨Operator.Kind.value.name, v, regular.value v found, rfl⟩
  | add list =>
      obtain ⟨values, found, rfl⟩ : ∃ values, c.add = some values ∧ .many values = list := by
        simpa [operators] using mem
      exact ⟨Operator.Kind.add.name, .array values, many values (regular.add values found), rfl⟩
  | default v =>
      have found : c.default = some v := by simpa [operators] using mem
      obtain ⟨filled, wellFormed⟩ := regular.default v found
      refine ⟨Operator.Kind.default.name, v, wellFormed, ?_⟩
      show (if v.isNull then _ else _) = _
      rw [filled]
      rfl
  | oneOf list =>
      obtain ⟨values, found, rfl⟩ : ∃ values, c.oneOf = some values ∧ .many values = list := by
        simpa [operators] using mem
      exact ⟨Operator.Kind.oneOf.name, .array values, many values (regular.oneOf values found), rfl⟩
  | subsetOf list =>
      obtain ⟨values, found, rfl⟩ : ∃ values, c.subsetOf = some values ∧ .many values = list := by
        simpa [operators] using mem
      exact ⟨Operator.Kind.subsetOf.name, .array values, many values (regular.subsetOf values found),
        rfl⟩
  | supersetOf list =>
      obtain ⟨values, found, rfl⟩ : ∃ values, c.supersetOf = some values ∧ .many values = list := by
        simpa [operators] using mem
      exact ⟨Operator.Kind.supersetOf.name, .array values,
        many values (regular.supersetOf values found), rfl⟩
  | essential required => exact ⟨Operator.Kind.essential.name, .boolean required, trivial, rfl⟩
  | unknown name config =>
      have found : (name, config) ∈ c.unknown := by simpa [operators] using mem
      exact regular.unknown _ found

lemma Regular.regular_operators (regular : c.Regular) : Operators.Regular c.operators where
  read := fun _ => regular.read_operators
  names := by
    refine List.Nodup.sublist c.names_sublist ?_
    refine List.nodup_append.mpr ⟨by decide, regular.distinct, fun name mem name' mem' same => ?_⟩
    subst same
    obtain ⟨entry, entry_mem, rfl⟩ := List.mem_map.mp mem'
    have unrecognized : Operator.isRecognized entry.1 = false := Operator.unrecognized_of_ofConfig
      (Operator.read_iff.mp (regular.unknown entry entry_mem)).2
    obtain ⟨h₁, h₂, h₃, h₄, h₅, h₆, h₇⟩ := Operator.isRecognized_eq_false_iff.mp unrecognized
    simp [h₁, h₂, h₃, h₄, h₅, h₆, h₇] at mem

end Combined

namespace Policy

variable {policies : List Policy} {policy : Policy}

/-- **Combining regular policies gives a regular one.** -/
theorem regular_of_combine (regular : ∀ p ∈ policies, p.Regular) (h : combine policies = .ok policy) :
    policy.Regular := by
  obtain ⟨combination, collects, finished⟩ := combine_eq_ok_iff.mp h
  have entries := Combination.finish_entries collects.distinct finished
  refine ⟨?_, fun entry mem => ?_⟩
  · rw [entries, Members.Distinct, Members.keys_mapValues]
    exact collects.distinct
  · rw [entries] at mem
    obtain ⟨⟨parameter, c⟩, listed, rfl⟩ := List.mem_map.mp mem
    have found : combination.running parameter = c := by
      rw [Combination.running, Members.get?_of_mem collects.distinct listed, Option.getD_some]
    have combined := collects.combined parameter
    rw [found, Combination.operatorsOn_flatMap] at combined
    refine (Combined.regular_of_foldlM Combined.regular_empty (fun op op_mem => ?_)
      combined).regular_operators
    obtain ⟨p, p_mem, operators, entry_mem, op_mem⟩ := mem_flatMap_operatorsOn.mp op_mem
    exact ((regular p p_mem).entries _ entry_mem).read op op_mem

/-! ### Histories -/

/-- How a policy comes about: it is empty or read, an operator or an entry is put into it, a parameter is
taken out of it, or it is combined from others.  Entries are filled operator by operator. -/
inductive Made : Policy → Prop where
  | empty : Made empty
  | read {value : Json} {policy : Policy} (wellFormed : value.WellFormed)
      (h : ofJson value = .ok policy) : Made policy
  | put {policy : Policy} (parameter : String) {op : Operator} (made : Made policy) (read : op.Read) :
      Made (policy.put parameter op)
  | putEntry {policy : Policy} (parameter : String) {operators : List Operator} (made : Made policy)
      (read : ∀ op ∈ operators, op.Read) :
      Made (policy.putEntry parameter (operators.foldl Operators.put []))
  | erase {policy : Policy} (parameter : String) (made : Made policy) : Made (policy.erase parameter)
  | combine {policies : List Policy} {policy : Policy} (made : ∀ p ∈ policies, Made p)
      (h : combine policies = .ok policy) : Made policy

/-- **However a policy has been made, it is regular.** -/
theorem Made.regular (made : policy.Made) : policy.Regular := by
  induction made with
  | empty => exact regular_empty
  | read wellFormed h => exact regular_of_ofJson wellFormed h
  | put parameter _ read ih => exact ih.put read
  | putEntry parameter _ read ih => exact ih.putEntry (Operators.regular_nil.foldl_put read)
  | erase parameter _ ih => exact ih.erase
  | combine _ h ih => exact regular_of_combine ih h

/-- **A policy can be written and read again, whatever has been done to it.**  No name occurs twice in
it, what is written for it is read as the same policy, and if it was read from a value, this value is
what is written. -/
theorem reread_of_made (made : policy.Made) :
    (policy.entries.Distinct ∧ ∀ entry ∈ policy.entries, (entry.2.map Operator.name).Nodup) ∧
      ofJson policy.toJson = .ok policy ∧
      ∀ value : Json, value.WellFormed → ofJson value = .ok policy → policy.toJson = value := by
  have regular := made.regular
  exact ⟨⟨regular.distinct, fun entry mem => (regular.entries entry mem).names⟩,
    regular.ofJson_toJson, fun _ => toJson_of_ofJson⟩

/-- The written form of a policy with a single value for a list and an operator that is not
implemented. -/
def drafted : Json :=
  .object [("contacts", .object [("add", .string "x")]),
    ("scope", .object [("regexp", .null), ("subset_of", .array [.string "a", .string "b"])])]

/-- The draft with an entry taken out, an operator put in and another entry filled anew. -/
def revised (policy : Policy) : Policy :=
  ((policy.erase "scope").put "contacts" (.essential true)).putEntry "scope"
    ([.default (.string "c"), .supersetOf (.one (.string "b")), .default (.string "b")].foldl
      Operators.put [])

/-- A policy that was edited and combined with its draft is read back from what is written. -/
theorem reread_of_made_revised :
    ∃ draft policy, ofJson drafted = .ok draft ∧ draft.toJson = drafted ∧
      combine [draft, draft.revised] = .ok policy ∧ ofJson policy.toJson = .ok policy ∧
      policy.toJson = .object
        [("contacts", .object [("add", .array [.string "x"]), ("essential", .boolean true)]),
          ("scope", .object [("default", .string "b"), ("subset_of", .array [.string "a", .string "b"]),
            ("superset_of", .array [.string "b"]), ("regexp", .null)])] := by
  have wellFormed : drafted.WellFormed := by
    simp [drafted, Json.WellFormed, Json.AllMembersWellFormed, Json.AllWellFormed, Members.Distinct,
      Members.keys]
  obtain ⟨draft, read, policy, combined, written⟩ : ∃ draft, ofJson drafted = .ok draft ∧
      ∃ policy, combine [draft, draft.revised] = .ok policy ∧ policy.toJson = _ :=
    ⟨_, rfl, _, rfl, rfl⟩
  have made : draft.Made := .read wellFormed read
  have revised_made : draft.revised.Made := by
    refine .putEntry _ (.put _ (.erase _ made) ⟨"essential", .boolean true, trivial, rfl⟩) ?_
    simp only [List.forall_mem_cons]
    exact ⟨⟨"default", .string "c", trivial, rfl⟩, ⟨"superset_of", .string "b", trivial, rfl⟩,
      ⟨"default", .string "b", trivial, rfl⟩, by simp⟩
  have each : ∀ p ∈ [draft, draft.revised], p.Made := by
    simp [made, revised_made]
  exact ⟨draft, policy, read, (reread_of_made made).2.2 drafted wellFormed read, combined,
    (reread_of_made (.combine each combined)).2.1, written⟩

end Policy

end Federation
