import Federation.Policy.Combination
import Federation.Proofs.Checks
import Federation.Proofs.Json.Equality

/-!
# What a combination of policies covers

Combining policies loses no check.  Whatever a later policy adds, what the running combination asks of
a parameter is at least what each operator seen so far asks of it.

**Lists.**  `unite` and `Combined.narrow` seen through `List.contains`, which compares values as JSON.

**One parameter.**  `Combined.Covers` says that a combination asks for what an operator asks for.
`Combined.covers_of_combine` is the step: the operator that is added is covered, and what was covered
stays so.  This has to be seen for operators of the same kind only, since adding an operator leaves alone
what is held of other kinds (`Combined.held_of_combine`).

**Policies.**  `Combination.Extends` says what a combination gains, and rounds of it add up
(`Combination.Extends.of_foldlM`).  `Combination.extends_of_addPolicy` carries this through whole
policies, and `Combination.finish_entries` describes the policy that results.
-/

namespace Federation

/-! ### Lists -/

lemma Json.contains_of_subset {xs ys : List Json} {v : Json} (subset : xs ⊆ ys)
    (contained : xs.contains v = true) : ys.contains v = true := by
  rw [List.contains_iff_exists_mem_beq] at contained ⊢
  obtain ⟨w, mem, equal⟩ := contained
  exact ⟨w, subset mem, equal⟩

/-- Uniting takes values from the two lists only. -/
lemma unite_subset (known new : List Json) : unite known new ⊆ known ++ new := by
  induction new generalizing known with
  | nil =>
      rw [List.append_nil]
      exact List.Subset.refl known
  | cons v rest ih =>
      intro w mem
      have mem' : w ∈ unite (if known.contains v then known else known ++ [v]) rest := mem
      have later := ih _ mem'
      split at later
      · rcases List.mem_append.mp later with mem | mem
        · exact List.mem_append_left _ mem
        · exact List.mem_append_right _ (List.mem_cons_of_mem v mem)
      · simpa using later

/-- Uniting drops nothing of the first list. -/
lemma subset_unite (known new : List Json) : known ⊆ unite known new := by
  induction new generalizing known with
  | nil => exact List.Subset.refl known
  | cons v rest ih =>
      show known ⊆ unite (if known.contains v then known else known ++ [v]) rest
      split
      · exact ih known
      · exact List.Subset.trans (List.subset_append_left known [v]) (ih _)

/-- A set that holds what two lists unite to holds every value of the second list. -/
lemma contains_of_unite {known new set : List Json}
    (holds : ∀ v ∈ unite known new, set.contains v = true) : ∀ v ∈ new, set.contains v = true := by
  induction new generalizing known with
  | nil =>
      intro v mem
      cases mem
  | cons w rest ih =>
      have holds' : ∀ v ∈ unite (if known.contains w then known else known ++ [w]) rest,
          set.contains v = true := holds
      intro v mem
      rcases List.mem_cons.mp mem with rfl | mem
      · split at holds'
        · rename_i known_already
          obtain ⟨w, mem, equal⟩ := List.contains_iff_exists_mem_beq.mp known_already
          exact Json.contains_of_beq equal (holds' w (subset_unite known rest mem))
        · exact holds' v (subset_unite _ rest (by simp))
      · exact ih holds' v mem

namespace Combined

/-- Narrowing allows no more than the new list, nor more than the running one. -/
lemma narrow_allows {kind : Operator.Kind} {running : Option (List Json)} {new allowed : List Json}
    (h : narrow kind running new = .ok allowed) :
    (∀ v, allowed.contains v = true → new.contains v = true) ∧
      ∀ before, running = some before → ∀ v, allowed.contains v = true →
        before.contains v = true := by
  unfold narrow at h
  split at h
  · cases h
    refine ⟨fun v contained => ?_, fun before same => by cases same⟩
    exact Json.contains_of_subset (by simpa using unite_subset [] new) contained
  · rename_i running
    dsimp only at h
    split at h
    · cases h
    · cases h
      constructor
      · intro v contained
        obtain ⟨w, mem, equal⟩ := List.contains_iff_exists_mem_beq.mp contained
        exact Json.contains_of_beq equal (List.mem_filter.mp mem).2
      · intro before same v contained
        cases same
        exact Json.contains_of_subset (fun w mem => (List.mem_filter.mp mem).1) contained

/-! ### One parameter -/

variable {c c' : Combined} {op earlier : Operator} {kind : Operator.Kind}

/-- What the combination holds of a kind, as an operator.  Of operators that are not implemented there may
be any number. -/
def held (c : Combined) : Operator.Kind → Option Operator
  | .value => c.value.map .value
  | .default => c.default.map .default
  | .add => c.add.map fun vs => .add (.many vs)
  | .oneOf => c.oneOf.map fun vs => .oneOf (.many vs)
  | .subsetOf => c.subsetOf.map fun vs => .subsetOf (.many vs)
  | .supersetOf => c.supersetOf.map fun vs => .supersetOf (.many vs)
  | .essential => c.essential.map .essential
  | .unknown => none

/-- Adding an operator leaves alone what is held of other kinds. -/
lemma held_of_combine (h : c.combine op = .ok c') (differs : op.kind ≠ kind) :
    c'.held kind = c.held kind := by
  cases op with
  | value v =>
      simp only [combine] at h
      split at h
      · cases h
        cases kind <;> first | rfl | exact absurd rfl differs
      · split at h <;> cases h
        rfl
  | oneOf list =>
      obtain ⟨allowed, _, done⟩ := Except.bind_eq_ok_iff.mp h
      cases done
      cases kind <;> first | rfl | exact absurd rfl differs
  | subsetOf list =>
      obtain ⟨allowed, _, done⟩ := Except.bind_eq_ok_iff.mp h
      cases done
      cases kind <;> first | rfl | exact absurd rfl differs
  | _ =>
      cases h
      cases kind <;> first | rfl | exact absurd rfl differs

/-- The combination asks for what the operator asks for. -/
def Covers (c : Combined) : Operator → Prop
  | .value v => ∃ fixed, c.value = some fixed ∧ (fixed = v ∨ (fixed == v) = true)
  | .oneOf list => ∃ allowed, c.oneOf = some allowed ∧
      ∀ v, allowed.contains v = true → list.values.contains v = true
  | .subsetOf list => ∃ allowed, c.subsetOf = some allowed ∧
      ∀ v, allowed.contains v = true → list.values.contains v = true
  | .supersetOf list => ∃ required, c.supersetOf = some required ∧
      ∀ set : List Json, (∀ v ∈ required, set.contains v = true) →
        ∀ v ∈ list.values, set.contains v = true
  | .essential required => required = true → c.essential = some true
  | .add _ => True
  | .default _ => True
  | .unknown _ _ => True

/-- Whether an operator is covered depends on what is held of its kind. -/
lemma Covers.congr (covered : c.Covers op) (same : c'.held op.kind = c.held op.kind) :
    c'.Covers op := by
  cases op with
  | value v =>
      have field : c'.value = c.value := Option.map_injective (fun _ _ => Operator.value.inj) same
      rwa [Covers, field]
  | oneOf list =>
      have field : c'.oneOf = c.oneOf := Option.map_injective (fun _ _ same => by cases same; rfl) same
      rwa [Covers, field]
  | subsetOf list =>
      have field : c'.subsetOf = c.subsetOf :=
        Option.map_injective (fun _ _ same => by cases same; rfl) same
      rwa [Covers, field]
  | supersetOf list =>
      have field : c'.supersetOf = c.supersetOf :=
        Option.map_injective (fun _ _ same => by cases same; rfl) same
      rwa [Covers, field]
  | essential required =>
      have field : c'.essential = c.essential :=
        Option.map_injective (fun _ _ => Operator.essential.inj) same
      rwa [Covers, field]
  | _ => trivial

/-- The operator that is added is covered. -/
lemma covers_self_of_combine (h : c.combine op = .ok c') : c'.Covers op := by
  cases op with
  | value v =>
      simp only [combine] at h
      split at h
      · cases h
        exact ⟨v, rfl, .inl rfl⟩
      · rename_i fixed found
        split at h
        · rename_i equal
          cases h
          exact ⟨fixed, found, .inr equal⟩
        · cases h
  | oneOf list =>
      obtain ⟨allowed, narrowed, done⟩ := Except.bind_eq_ok_iff.mp h
      cases done
      exact ⟨allowed, rfl, (narrow_allows narrowed).1⟩
  | subsetOf list =>
      obtain ⟨allowed, narrowed, done⟩ := Except.bind_eq_ok_iff.mp h
      cases done
      exact ⟨allowed, rfl, (narrow_allows narrowed).1⟩
  | supersetOf list =>
      cases h
      exact ⟨_, rfl, fun set holds => contains_of_unite holds⟩
  | essential required =>
      cases h
      intro asked
      simp [asked]
  | _ => trivial

/-- What is asked for by operators of its kind is narrowed and never given up. -/
lemma covers_of_combine_of_kind (h : c.combine op = .ok c') (kind : op.kind = earlier.kind)
    (covered : c.Covers earlier) : c'.Covers earlier := by
  cases earlier with
  | value u =>
      obtain ⟨fixed, found, equal⟩ := covered
      cases op with
      | value v =>
          simp only [combine, found] at h
          split at h <;> cases h
          exact ⟨fixed, found, equal⟩
      | _ => cases kind
  | oneOf list =>
      obtain ⟨before, running, within⟩ := covered
      cases op with
      | oneOf new =>
          obtain ⟨allowed, narrowed, done⟩ := Except.bind_eq_ok_iff.mp h
          cases done
          exact ⟨allowed, rfl, fun v mem => within v ((narrow_allows narrowed).2 before running v mem)⟩
      | _ => cases kind
  | subsetOf list =>
      obtain ⟨before, running, within⟩ := covered
      cases op with
      | subsetOf new =>
          obtain ⟨allowed, narrowed, done⟩ := Except.bind_eq_ok_iff.mp h
          cases done
          exact ⟨allowed, rfl, fun v mem => within v ((narrow_allows narrowed).2 before running v mem)⟩
      | _ => cases kind
  | supersetOf list =>
      obtain ⟨before, running, suffices_before⟩ := covered
      cases op with
      | supersetOf new =>
          cases h
          refine ⟨_, rfl, fun set holds => suffices_before set fun v mem => holds v ?_⟩
          rw [running]
          exact subset_unite _ _ mem
      | _ => cases kind
  | essential required =>
      cases op with
      | essential required' =>
          cases h
          intro asked
          simp [covered asked]
      | _ => cases kind
  | _ => trivial

/-- **Adding an operator covers it and uncovers nothing.** -/
theorem covers_of_combine (h : c.combine op = .ok c') :
    c'.Covers op ∧ ∀ earlier, c.Covers earlier → c'.Covers earlier := by
  refine ⟨covers_self_of_combine h, fun earlier covered => ?_⟩
  by_cases kind : op.kind = earlier.kind
  · exact covers_of_combine_of_kind h kind covered
  · exact covered.congr (held_of_combine h kind)

/-- The same for all operators of an entry. -/
lemma covers_of_combineEntry {operators : Operators}
    (h : c.combineEntry operators = .ok c') :
    (∀ op ∈ operators, c'.Covers op) ∧ ∀ earlier, c.Covers earlier → c'.Covers earlier := by
  obtain ⟨combined, folded, h⟩ := Except.bind_eq_ok_iff.mp h
  obtain ⟨⟨⟩, _, h⟩ := Except.bind_eq_ok_iff.mp h
  cases h
  constructor
  · intro op mem
    exact List.foldlM_of_mem (I := fun _ => True) (Q := fun c => c.Covers op) folded mem trivial
      (fun _ _ _ _ _ _ => trivial)
      (fun _ _ _ added => (covers_of_combine added).1)
      (fun _ _ _ _ _ covered added => (covers_of_combine added).2 op covered)
  · intro earlier covered
    exact List.foldlM_induction (P := fun c => c.Covers earlier) folded covered
      fun _ _ _ _ covered added => (covers_of_combine added).2 earlier covered

end Combined

/-! ### Policies -/

namespace Policy

/-- The policy puts the operator on the parameter. -/
def Asks (policy : Policy) (parameter : String) (op : Operator) : Prop :=
  ∃ operators, (parameter, operators) ∈ policy.entries ∧ op ∈ operators

/-- The policy has an entry for the parameter. -/
def Names (policy : Policy) (parameter : String) : Prop :=
  parameter ∈ policy.entries.keys

end Policy

namespace Combination

variable {combination combination' : Combination} {parameter : String}

/-- What has been combined so far asks of a parameter what the operator asks. -/
def Covers (combination : Combination) (parameter : String) (op : Operator) : Prop :=
  ∃ combined, combination.get? parameter = some combined ∧ combined.Covers op

/-- What a later state of a combination has over an earlier one: it covers what is asked for in between,
uncovers nothing, and has new entries only for parameters that are named. -/
structure Extends (asks : String → Operator → Prop) (names : String → Prop)
    (before after : Combination) : Prop where
  covers : ∀ parameter op, asks parameter op → after.Covers parameter op
  keeps : ∀ parameter op, before.Covers parameter op → after.Covers parameter op
  distinct : before.Distinct → after.Distinct
  origin : ∀ parameter ∈ Members.keys after, names parameter ∨ parameter ∈ Members.keys before

/-- A combination extends itself as long as nothing is asked for. -/
lemma Extends.refl {asks : String → Operator → Prop} {names : String → Prop}
    (nothing : ∀ parameter op, ¬ asks parameter op) : Extends asks names combination combination where
  covers := fun parameter op asked => absurd asked (nothing parameter op)
  keeps := fun _ _ covered => covered
  distinct := fun distinct => distinct
  origin := fun _ named => .inr named

/-- Rounds that extend a combination add up: what any of them asks for is covered in the end. -/
lemma Extends.of_foldlM {α : Type} {f : Combination → α → Except Violation Combination}
    {asks : α → String → Operator → Prop} {names : α → String → Prop} {items : List α}
    (h : items.foldlM f combination = .ok combination')
    (round : ∀ item before after, f before item = .ok after →
      Extends (asks item) (names item) before after) :
    Extends (fun parameter op => ∃ item ∈ items, asks item parameter op)
      (fun parameter => ∃ item ∈ items, names item parameter) combination combination' := by
  induction items generalizing combination with
  | nil =>
      rw [List.foldlM_nil, Except.pure_eq_ok_iff] at h
      subst h
      refine Extends.refl ?_
      rintro parameter op ⟨item, mem, _⟩
      cases mem
  | cons item rest ih =>
      rw [List.foldlM_cons, Except.bind_eq_ok_iff] at h
      obtain ⟨next, first, later⟩ := h
      have now := round item combination next first
      have then_on := ih later
      refine
        { covers := ?_
          keeps := fun parameter op covered =>
            then_on.keeps parameter op (now.keeps parameter op covered)
          distinct := fun distinct => then_on.distinct (now.distinct distinct)
          origin := ?_ }
      · rintro parameter op ⟨asker, mem, asked⟩
        rcases List.mem_cons.mp mem with rfl | mem
        · exact then_on.keeps parameter op (now.covers parameter op asked)
        · exact then_on.covers parameter op ⟨asker, mem, asked⟩
      · intro parameter named
        rcases then_on.origin parameter named with ⟨namer, mem, names⟩ | earlier
        · exact .inl ⟨namer, List.mem_cons_of_mem item mem, names⟩
        · exact (now.origin parameter earlier).imp (fun names => ⟨item, List.mem_cons_self, names⟩)
            fun before => before

lemma extends_of_addEntry {operators : Operators}
    (h : combination.addEntry parameter operators = .ok combination') :
    Extends (fun other op => other = parameter ∧ op ∈ operators) (fun other => other = parameter)
      combination combination' := by
  obtain ⟨next, combined, h⟩ := Except.bind_eq_ok_iff.mp h
  cases h
  obtain ⟨covers, keeps⟩ := Combined.covers_of_combineEntry (Except.mapError_eq_ok_iff.mp combined)
  refine
    { covers := ?_
      keeps := ?_
      distinct := Members.distinct_insert
      origin := fun other => Members.mem_keys_insert.mp }
  · rintro other op ⟨rfl, mem⟩
    exact ⟨next, Members.get?_insert_self combination other next, covers op mem⟩
  · rintro other op ⟨running, found, covered⟩
    by_cases same : parameter = other
    · subst same
      refine ⟨next, Members.get?_insert_self combination parameter next, keeps op ?_⟩
      rw [found]
      exact covered
    · exact ⟨running, (Members.get?_insert_of_ne combination next same).trans found, covered⟩

/-- **Adding a policy covers every operator of it and uncovers nothing.**  Only the parameters it names
are new. -/
theorem extends_of_addPolicy {policy : Policy}
    (h : combination.addPolicy policy = .ok combination') :
    Extends policy.Asks policy.Names combination combination' := by
  have extended := Extends.of_foldlM h fun _ _ _ added => extends_of_addEntry added
  refine { extended with covers := ?_, origin := ?_ }
  · rintro other op ⟨operators, mem, op_mem⟩
    exact extended.covers other op ⟨(other, operators), mem, rfl, op_mem⟩
  · intro other named
    rcases extended.origin other named with ⟨entry, mem, rfl⟩ | earlier
    · exact .inl (List.mem_map_of_mem mem)
    · exact .inr earlier

/-- Finishing appends one entry after the other, as long as no name occurs twice. -/
lemma finish_entries_from {policy before : Policy} {rest : Combination}
    (nodup : (before.entries.keys ++ Members.keys rest).Nodup)
    (h : rest.foldlM (fun policy entry => do
      blame entry.1 entry.2.checkDefault
      return policy.putEntry entry.1 entry.2.operators) before = .ok policy) :
    policy.entries = before.entries ++ rest.mapValues Combined.operators := by
  induction rest generalizing before with
  | nil =>
      rw [List.foldlM_nil, Except.pure_eq_ok_iff] at h
      rw [← h]
      simp [Members.mapValues]
  | cons entry rest ih =>
      rw [List.foldlM_cons, Except.bind_eq_ok_iff] at h
      obtain ⟨next, added, later⟩ := h
      obtain ⟨⟨⟩, _, added⟩ := Except.bind_eq_ok_iff.mp added
      cases added
      have fresh : entry.1 ∉ before.entries.keys := by
        intro mem
        exact (List.nodup_append.mp nodup).2.2 _ mem _ List.mem_cons_self rfl
      have entries : (before.putEntry entry.1 entry.2.operators).entries =
          before.entries ++ [(entry.1, entry.2.operators)] :=
        Members.insert_of_not_mem fresh
      have keys : (before.putEntry entry.1 entry.2.operators).entries.keys ++ Members.keys rest =
          before.entries.keys ++ Members.keys (entry :: rest) := by
        rw [entries]
        simp [Members.keys]
      rw [ih (keys ▸ nodup) later, entries]
      simp [Members.mapValues]

/-- **The combined policy has the entries of the combination.** -/
theorem finish_entries {policy : Policy} (distinct : combination.Distinct)
    (h : combination.finish = .ok policy) :
    policy.entries = combination.mapValues Combined.operators := by
  have nodup : (Policy.empty.entries.keys ++ Members.keys combination).Nodup := distinct
  simpa [Policy.empty] using finish_entries_from nodup h

end Combination

end Federation
