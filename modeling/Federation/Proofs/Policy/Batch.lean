import Federation.Proofs.Policy.Levels
import Mathlib.Data.List.Induction

/-!
# Combining all at once

Policies are combined one operator after the other, with checks on the way.  What comes out can be said
without any order of work: collect what all policies say about a parameter, look at the collection as a
whole, and write down what it comes to.

**What is said.**  `Operators.values`, `Operators.oneOfs` and their like sort the operators on a
parameter by kind.  `Operators.Agree` says that they do not contradict each other, and
`Operators.merged` what they come to.

**One operator more.**  `Operators.batch` is the same as a combination, and
`Operators.combine_batch_iff` says what one more operator does to it.  Failures on the way are failures
in the end, because what operators have in common only shrinks; so the whole fold is the collection
(`Operators.foldlM_combine_eq_ok_iff`).

**The theorem.**  `Policy.combine_eq_merged_iff` carries this to whole policies.
-/

namespace Federation

/-! ### Lists of values -/

lemma List.enlist_eq_loop {α : Type} [BEq α] (known new : List α) :
    enlist known new = List.eraseDupsBy.loop (· == ·) new known.reverse := by
  induction new generalizing known with
  | nil => exact known.reverse_reverse.symm
  | cons item rest ih =>
      rw [enlist_cons, ih, List.eraseDupsBy.loop, List.any_reverse, ← List.contains_eq_any_beq]
      split
      · rename_i present
        rw [present]
      · rename_i absent
        rw [Bool.eq_false_iff.mpr absent, List.reverse_append]
        rfl

/-- What is enlisted from nothing is the list without its repetitions. -/
lemma List.enlist_nil_left {α : Type} [BEq α] (new : List α) : enlist [] new = new.eraseDups :=
  enlist_eq_loop [] new

/-- The values of some lists, each once, in order of first appearance. -/
def union (lists : List (List Json)) : List Json :=
  lists.flatten.eraseDups

/-- The values that some lists have in common, each once, in the order of the first list. -/
def intersection : List (List Json) → List Json
  | [] => []
  | first :: later => first.eraseDups.filter fun v => later.all fun list => list.contains v

/-- What lists come to, if there are any. -/
def given (f : List (List Json) → List Json) : List (List Json) → Option (List Json)
  | [] => none
  | lists => some (f lists)

lemma given_eq_some_iff {f : List (List Json) → List Json} {lists : List (List Json)}
    {values : List Json} : given f lists = some values ↔ lists ≠ [] ∧ f lists = values := by
  cases lists with
  | nil => simp [given]
  | cons first later => simp [given]

lemma union_concat (lists : List (List Json)) (new : List Json) :
    union (lists ++ [new]) = unite (union lists) new := by
  rw [union, union, List.flatten_concat, ← List.enlist_nil_left, ← List.enlist_nil_left,
    List.enlist_append, unite_eq_enlist]

lemma intersection_singleton (new : List Json) : intersection [new] = unite [] new := by
  simp [intersection, unite_eq_enlist, List.enlist_nil_left]

/-- One more list narrows the others. -/
lemma intersection_concat {lists : List (List Json)} (some_given : lists ≠ []) (new : List Json) :
    intersection (lists ++ [new]) = (intersection lists).filter fun v => new.contains v := by
  cases lists with
  | nil => exact absurd rfl some_given
  | cons first later =>
      rw [List.cons_append, intersection, intersection, List.filter_filter]
      simp [Bool.and_comm]

/-- **A value is in what lists have in common if it is in each of them.** -/
theorem contains_intersection_iff {lists : List (List Json)} {v : Json} (some_given : lists ≠ [])
    (wellFormed : ∀ list ∈ lists, ∀ w ∈ list, w.WellFormed) (well : v.WellFormed) :
    (intersection lists).contains v = true ↔ ∀ list ∈ lists, list.contains v = true := by
  cases lists with
  | nil => exact absurd rfl some_given
  | cons first later =>
      have once : ∀ w, first.eraseDups.contains w = first.contains w := by
        intro w
        rw [← List.enlist_nil_left, ← unite_eq_enlist, contains_unite_nil]
      rw [List.forall_mem_cons, ← once, intersection]
      simp only [List.contains_iff_exists_mem_beq, List.mem_filter, List.all_eq_true]
      constructor
      · rintro ⟨w, ⟨mem, common⟩, equal⟩
        refine ⟨⟨w, mem, equal⟩, fun list listed => ?_⟩
        obtain ⟨u, mem', equal'⟩ := common list listed
        exact ⟨u, mem', Json.beq_trans equal equal'⟩
      · rintro ⟨⟨w, mem, equal⟩, common⟩
        refine ⟨w, ⟨mem, fun list listed => ?_⟩, equal⟩
        obtain ⟨u, mem', equal'⟩ := common list listed
        have within : w ∈ first := by
          rw [← List.enlist_nil_left, ← unite_eq_enlist] at mem
          simpa using unite_subset [] first mem
        have flipped := Json.beq_symm well (wellFormed first List.mem_cons_self w within) equal
        exact ⟨u, mem', Json.beq_trans flipped equal'⟩

/-! ### What is said about a parameter -/

namespace Operators

/-- The configurations of `value`. -/
def values (operators : Operators) : List Json :=
  operators.filterMap fun op =>
    match op with
    | .value v => some v
    | _ => none

/-- The configurations of `default`. -/
def defaults (operators : Operators) : List Json :=
  operators.filterMap fun op =>
    match op with
    | .default v => some v
    | _ => none

/-- The lists of `add`. -/
def adds (operators : Operators) : List (List Json) :=
  operators.filterMap fun op =>
    match op with
    | .add list => some list.values
    | _ => none

/-- The lists of `one_of`. -/
def oneOfs (operators : Operators) : List (List Json) :=
  operators.filterMap fun op =>
    match op with
    | .oneOf list => some list.values
    | _ => none

/-- The lists of `subset_of`. -/
def subsetOfs (operators : Operators) : List (List Json) :=
  operators.filterMap fun op =>
    match op with
    | .subsetOf list => some list.values
    | _ => none

/-- The lists of `superset_of`. -/
def supersetOfs (operators : Operators) : List (List Json) :=
  operators.filterMap fun op =>
    match op with
    | .supersetOf list => some list.values
    | _ => none

/-- The configurations of `essential`. -/
def essentials (operators : Operators) : List Bool :=
  operators.filterMap fun op =>
    match op with
    | .essential required => some required
    | _ => none

/-- The operators that are not implemented, with their configurations. -/
def unknowns (operators : Operators) : List (String × Json) :=
  operators.filterMap fun op =>
    match op with
    | .unknown name config => some (name, config)
    | _ => none

/-- The operators that are not implemented by first appearance, each with its last configuration. -/
def lastUnknowns (operators : Operators) : List (String × Json) :=
  (operators.unknowns.map Prod.fst).eraseDups.filterMap fun name =>
    (operators.unknowns.reverse.lookup name).map fun config => (name, config)

/-- The lists admit the value: it is one of those allowed, its items are, and none is lacking. -/
structure Admit (operators : Operators) (v : Json) : Prop where
  oneOf : operators.oneOfs ≠ [] → (intersection operators.oneOfs).contains v = true
  subsetOf : operators.subsetOfs ≠ [] →
    ∀ w ∈ v.asSet, (intersection operators.subsetOfs).contains w = true
  supersetOf : ∀ w ∈ union operators.supersetOfs, v.asSet.contains w = true

/-- The operators do not contradict each other. -/
structure Agree (operators : Operators) : Prop where
  /-- All values are equal. -/
  values : operators.values.Pairwise fun u v => (u == v) = true
  /-- Two or more `one_of` lists have something in common. -/
  oneOfs : 2 ≤ operators.oneOfs.length → intersection operators.oneOfs ≠ []
  /-- Two or more `subset_of` lists have something in common. -/
  subsetOfs : 2 ≤ operators.subsetOfs.length → intersection operators.subsetOfs ≠ []
  /-- What is required is allowed. -/
  supersetOfs : ∀ v ∈ union operators.supersetOfs,
    (operators.subsetOfs ≠ [] → (intersection operators.subsetOfs).contains v = true) ∧
      (operators.oneOfs ≠ [] → (intersection operators.oneOfs).contains v = true)
  /-- The value is admitted, unless it is null. -/
  value : ∀ v, operators.values.head? = some v → v.isNull = false → operators.Admit v
  /-- The last default is admitted. -/
  default : ∀ v, operators.defaults.getLast? = some v → operators.Admit v

/-- What the operators come to, each kind once. -/
def merged (operators : Operators) : Operators :=
  (operators.values.head?.map Operator.value).toList ++
  ((given union operators.adds).map fun vs => Operator.add (.many vs)).toList ++
  (operators.defaults.getLast?.map Operator.default).toList ++
  ((given intersection operators.oneOfs).map fun vs => Operator.oneOf (.many vs)).toList ++
  ((given intersection operators.subsetOfs).map fun vs => Operator.subsetOf (.many vs)).toList ++
  ((given union operators.supersetOfs).map fun vs => Operator.supersetOf (.many vs)).toList ++
  (if operators.essentials.isEmpty then [] else [.essential (operators.essentials.any id)]) ++
  operators.lastUnknowns.map fun (name, config) => Operator.unknown name config

/-! ### One operator more -/

/-- What the operators come to, as a combination. -/
def batch (operators : Operators) : Combined where
  value := operators.values.head?
  add := given union operators.adds
  default := operators.defaults.getLast?
  oneOf := given intersection operators.oneOfs
  subsetOf := given intersection operators.subsetOfs
  supersetOf := given union operators.supersetOfs
  essential := if operators.essentials.isEmpty then none else some (operators.essentials.any id)
  unknown := Members.ofList operators.unknowns

variable {operators : Operators} {op : Operator} {c : Combined}

/-- The combination as one operator changes it, if that may be done. -/
lemma batch_concat : batch (operators ++ [op]) =
    match op with
    | .value v => { batch operators with value := operators.values.head?.or (some v) }
    | .add list => { batch operators with add := some (union (operators.adds ++ [list.values])) }
    | .default v => { batch operators with default := some v }
    | .oneOf list =>
      { batch operators with oneOf := some (intersection (operators.oneOfs ++ [list.values])) }
    | .subsetOf list =>
      { batch operators with subsetOf := some (intersection (operators.subsetOfs ++ [list.values])) }
    | .supersetOf list =>
      { batch operators with supersetOf := some (union (operators.supersetOfs ++ [list.values])) }
    | .essential required =>
      { batch operators with essential := some (operators.essentials.any id || required) }
    | .unknown name config =>
      { batch operators with unknown := (Members.ofList operators.unknowns).insert name config } := by
  have added : ∀ (f : List (List Json) → List Json) (lists : List (List Json)) (new : List Json),
      given f (lists ++ [new]) = some (f (lists ++ [new])) := by
    intro f lists new
    exact given_eq_some_iff.mpr ⟨by simp, rfl⟩
  cases op with
  | _ =>
      simp [batch, values, defaults, adds, oneOfs, subsetOfs, supersetOfs, essentials, unknowns, added,
        Members.ofList]

lemma batch_nil : batch [] = Combined.empty := rfl

/-- Uniting a running union with one more list is the union of all. -/
lemma unite_given (lists : List (List Json)) (new : List Json) :
    unite ((given union lists).getD []) new = union (lists ++ [new]) := by
  rw [union_concat]
  cases lists with
  | nil => rfl
  | cons first later => rfl

/-- Narrowing what lists have in common by one more is what all have in common, if that is something. -/
lemma narrow_given_iff {kind : Operator.Kind} {lists : List (List Json)} {new allowed : List Json} :
    Combined.narrow kind (given intersection lists) new = .ok allowed ↔
      (lists ≠ [] → intersection (lists ++ [new]) ≠ []) ∧
        intersection (lists ++ [new]) = allowed := by
  cases lists with
  | nil => simp [given, Combined.narrow, intersection_singleton]
  | cons first later =>
      have running : given intersection (first :: later) = some (intersection (first :: later)) := rfl
      rw [intersection_concat (List.cons_ne_nil first later), running, Combined.narrow]
      split
      · rename_i nothing
        simp [List.isEmpty_iff.mp nothing]
      · rename_i something
        simp [List.isEmpty_iff] at something ⊢
        intro _
        exact something

/-- What lists have in common is narrowed, and then recorded. -/
lemma narrow_given_bind_iff {kind : Operator.Kind} {lists : List (List Json)} {new : List Json}
    {recorded : List Json → Combined} :
    (do return recorded (← Combined.narrow kind (given intersection lists) new)) = .ok c ↔
      (lists ≠ [] → intersection (lists ++ [new]) ≠ []) ∧
        recorded (intersection (lists ++ [new])) = c := by
  rw [Except.bind_eq_ok_iff]
  constructor
  · rintro ⟨allowed, narrowed, h⟩
    obtain ⟨fits, rfl⟩ := narrow_given_iff.mp narrowed
    exact ⟨fits, Except.pure_eq_ok_iff.mp h⟩
  · rintro ⟨fits, rfl⟩
    exact ⟨_, narrow_given_iff.mpr ⟨fits, rfl⟩, rfl⟩

/-- One operator more does not contradict the others. -/
def Fits (operators : Operators) : Operator → Prop
  | .value v => ∀ first, operators.values.head? = some first → (first == v) = true
  | .oneOf list => operators.oneOfs ≠ [] → intersection (operators.oneOfs ++ [list.values]) ≠ []
  | .subsetOf list =>
    operators.subsetOfs ≠ [] → intersection (operators.subsetOfs ++ [list.values]) ≠ []
  | _ => True

/-- **One operator more** is combined with what the others come to. -/
theorem combine_batch_iff :
    (batch operators).combine op = .ok c ↔ Fits operators op ∧ batch (operators ++ [op]) = c := by
  rw [batch_concat]
  cases op with
  | value v =>
      rw [Combined.combine]
      dsimp only [Fits]
      rw [show (batch operators).value = operators.values.head? from rfl]
      cases fixed : operators.values.head? with
      | none => simp
      | some first =>
          have kept : { batch operators with value := some first } = batch operators := by
            rw [← fixed]
            rfl
          by_cases equal : (first == v) = true
          · simp [equal, kept]
          · simp [equal]
  | add list => simp [Combined.combine, Fits, ← unite_given, batch]
  | default v => simp [Combined.combine, Fits]
  | oneOf list => exact narrow_given_bind_iff
  | subsetOf list => exact narrow_given_bind_iff
  | supersetOf list => simp [Combined.combine, Fits, ← unite_given, batch]
  | essential required =>
      have known : (batch operators).essential.getD false = operators.essentials.any id := by
        rw [batch]
        cases operators.essentials with
        | nil => rfl
        | cons first later => rfl
      simp [Combined.combine, Fits, known]
  | unknown name config => simp [Combined.combine, Fits, batch]

/-- What the operators of each kind must agree on for them to be combined at all. -/
@[mk_iff]
structure Compatible (operators : Operators) : Prop where
  values : ∀ first, operators.values.head? = some first →
    ∀ v ∈ operators.values.tail, (first == v) = true
  oneOfs : 2 ≤ operators.oneOfs.length → intersection operators.oneOfs ≠ []
  subsetOfs : 2 ≤ operators.subsetOfs.length → intersection operators.subsetOfs ≠ []

/-- Lists with something in common are the first ones of lists with something in common. -/
lemma common_concat_iff {lists : List (List Json)} {new : List Json} :
    (2 ≤ (lists ++ [new]).length → intersection (lists ++ [new]) ≠ []) ↔
      (2 ≤ lists.length → intersection lists ≠ []) ∧
        (lists ≠ [] → intersection (lists ++ [new]) ≠ []) := by
  cases lists with
  | nil => simp
  | cons first later =>
      have narrowed := intersection_concat (List.cons_ne_nil first later) new
      constructor
      · intro common
        have common' := common (by simp)
        refine ⟨fun _ nothing => common' ?_, fun _ => common'⟩
        rw [narrowed, nothing]
        rfl
      · rintro ⟨_, common⟩ _
        exact common (List.cons_ne_nil first later)

/-- Values that equal the first one, with one value more. -/
lemma equal_concat_iff {values : List Json} {v : Json} :
    (∀ first, (values ++ [v]).head? = some first → ∀ u ∈ (values ++ [v]).tail, (first == u) = true) ↔
      (∀ first, values.head? = some first → ∀ u ∈ values.tail, (first == u) = true) ∧
        ∀ first, values.head? = some first → (first == v) = true := by
  cases values with
  | nil => simp
  | cons first later => simp [or_imp, forall_and]

lemma compatible_concat_iff :
    Compatible (operators ++ [op]) ↔ Compatible operators ∧ Fits operators op := by
  rw [compatible_iff, compatible_iff]
  cases op with
  | value v =>
      have appended : values (operators ++ [.value v]) = operators.values ++ [v] := by simp [values]
      have allowed : oneOfs (operators ++ [.value v]) = operators.oneOfs := by simp [oneOfs]
      have allowed' : subsetOfs (operators ++ [.value v]) = operators.subsetOfs := by simp [subsetOfs]
      rw [appended, allowed, allowed', equal_concat_iff]
      exact and_right_comm
  | oneOf list =>
      have fixed : values (operators ++ [.oneOf list]) = operators.values := by simp [values]
      have appended : oneOfs (operators ++ [.oneOf list]) = operators.oneOfs ++ [list.values] := by
        simp [oneOfs]
      have allowed : subsetOfs (operators ++ [.oneOf list]) = operators.subsetOfs := by
        simp [subsetOfs]
      rw [fixed, appended, allowed, common_concat_iff]
      constructor
      · rintro ⟨values, ⟨oneOfs, fits⟩, subsetOfs⟩
        exact ⟨⟨values, oneOfs, subsetOfs⟩, fits⟩
      · rintro ⟨⟨values, oneOfs, subsetOfs⟩, fits⟩
        exact ⟨values, ⟨oneOfs, fits⟩, subsetOfs⟩
  | subsetOf list =>
      have fixed : values (operators ++ [.subsetOf list]) = operators.values := by simp [values]
      have allowed : oneOfs (operators ++ [.subsetOf list]) = operators.oneOfs := by simp [oneOfs]
      have appended : subsetOfs (operators ++ [.subsetOf list]) =
          operators.subsetOfs ++ [list.values] := by simp [subsetOfs]
      rw [fixed, allowed, appended, common_concat_iff]
      constructor
      · rintro ⟨values, oneOfs, subsetOfs, fits⟩
        exact ⟨⟨values, oneOfs, subsetOfs⟩, fits⟩
      · rintro ⟨⟨values, oneOfs, subsetOfs⟩, fits⟩
        exact ⟨values, oneOfs, subsetOfs, fits⟩
  | _ => simp [values, oneOfs, subsetOfs, Fits]

/-- **Operators in a row come to what all of them come to together.** -/
theorem foldlM_combine_eq_ok_iff :
    operators.foldlM Combined.combine Combined.empty = .ok c ↔
      Compatible operators ∧ batch operators = c := by
  induction operators using List.reverseRecOn generalizing c with
  | nil =>
      have nothing : Compatible [] := ⟨by simp [values], by simp [oneOfs], by simp [subsetOfs]⟩
      simp [batch_nil, nothing, pure, Except.pure]
  | append_singleton operators op ih =>
      rw [List.foldlM_append, Except.bind_eq_ok_iff, compatible_concat_iff]
      constructor
      · rintro ⟨before, earlier, last⟩
        obtain ⟨compatible, rfl⟩ := ih.mp earlier
        rw [List.foldlM_cons, Except.bind_eq_ok_iff] at last
        obtain ⟨after, combined, last⟩ := last
        obtain ⟨fits, rfl⟩ := combine_batch_iff.mp combined
        exact ⟨⟨compatible, fits⟩, Except.pure_eq_ok_iff.mp last⟩
      · rintro ⟨⟨compatible, fits⟩, rfl⟩
        refine ⟨_, ih.mpr ⟨compatible, rfl⟩, ?_⟩
        rw [List.foldlM_cons, combine_batch_iff.mpr ⟨fits, rfl⟩]
        rfl

/-! ### The checks -/

lemma admits_batch_iff {v : Json} : (batch operators).Admits v ↔ operators.Admit v := by
  constructor
  · intro admits
    refine ⟨fun some_given => ?_, fun some_given => ?_, fun w mem => ?_⟩
    · exact admits.oneOf _ (given_eq_some_iff.mpr ⟨some_given, rfl⟩)
    · exact admits.subsetOf _ (given_eq_some_iff.mpr ⟨some_given, rfl⟩)
    · have some_given : operators.supersetOfs ≠ [] := by
        rintro nothing
        rw [nothing] at mem
        cases mem
      exact admits.supersetOf _ (given_eq_some_iff.mpr ⟨some_given, rfl⟩) w mem
  · intro admitted
    refine ⟨fun allowed lists => ?_, fun allowed lists => ?_, fun required lists => ?_⟩
    · obtain ⟨some_given, rfl⟩ := given_eq_some_iff.mp lists
      exact admitted.oneOf some_given
    · obtain ⟨some_given, rfl⟩ := given_eq_some_iff.mp lists
      exact admitted.subsetOf some_given
    · obtain ⟨_, rfl⟩ := given_eq_some_iff.mp lists
      exact admitted.supersetOf

lemma checkDefault_eq_ok_iff :
    c.checkDefault = .ok () ↔ ∀ v, c.default = some v → c.Admits v := by
  unfold Combined.checkDefault
  cases c.default with
  | none => simp
  | some v =>
      cases rejected : c.rejection? v with
      | none => simp [rejected, Combined.rejection?_eq_none_iff.mp rejected]
      | some why =>
          have refused : ¬ c.Admits v := by
            rw [← Combined.rejection?_eq_none_iff, rejected]
            exact Option.some_ne_none why
          simp [rejected, refused]

/-- Values that equal the first one equal each other. -/
lemma pairwise_iff {values : List Json} (wellFormed : ∀ v ∈ values, v.WellFormed) :
    (values.Pairwise fun u v => (u == v) = true) ↔
      ∀ first, values.head? = some first → ∀ v ∈ values.tail, (first == v) = true := by
  cases values with
  | nil => simp
  | cons first later =>
      rw [List.pairwise_cons]
      simp only [List.head?_cons, Option.some.injEq, forall_eq', List.tail_cons]
      refine and_iff_left_of_imp fun equal => ?_
      refine List.pairwise_of_forall_mem_list fun u mem v mem' => ?_
      have flipped := Json.beq_symm (wellFormed first List.mem_cons_self)
        (wellFormed u (List.mem_cons_of_mem first mem)) (equal u mem)
      exact Json.beq_trans flipped (equal v mem')

lemma wellFormed_values (wellFormed : ∀ op ∈ operators, op.config.WellFormed) :
    ∀ v ∈ operators.values, v.WellFormed := by
  intro v mem
  obtain ⟨op, op_mem, same⟩ := List.mem_filterMap.mp mem
  cases op with
  | value u =>
      cases same
      exact wellFormed _ op_mem
  | _ => cases same

/-- **Operators agree if they can be combined and pass all checks.** -/
theorem agree_iff (wellFormed : ∀ op ∈ operators, op.config.WellFormed) :
    Agree operators ↔
      Compatible operators ∧ (batch operators).Consistent ∧
        (batch operators).checkDefault = .ok () := by
  rw [checkDefault_eq_ok_iff]
  constructor
  · intro agree
    refine ⟨⟨(pairwise_iff (wellFormed_values wellFormed)).mp agree.values, agree.oneOfs,
      agree.subsetOfs⟩, ⟨?_, ?_, ?_⟩, fun v last => admits_batch_iff.mpr (agree.default v last)⟩
    · intro required allowed asked lists v mem
      obtain ⟨_, rfl⟩ := given_eq_some_iff.mp asked
      obtain ⟨some_given, rfl⟩ := given_eq_some_iff.mp lists
      exact (agree.supersetOfs v mem).1 some_given
    · intro required allowed asked lists v mem
      obtain ⟨_, rfl⟩ := given_eq_some_iff.mp asked
      obtain ⟨some_given, rfl⟩ := given_eq_some_iff.mp lists
      exact (agree.supersetOfs v mem).2 some_given
    · exact fun v fixed filled => admits_batch_iff.mpr (agree.value v fixed filled)
  · rintro ⟨compatible, consistent, default⟩
    have asked : ∀ v ∈ union operators.supersetOfs,
        (batch operators).supersetOf = some (union operators.supersetOfs) := by
      intro v mem
      refine given_eq_some_iff.mpr ⟨?_, rfl⟩
      rintro nothing
      rw [nothing] at mem
      cases mem
    exact
      { values := (pairwise_iff (wellFormed_values wellFormed)).mpr compatible.values
        oneOfs := compatible.oneOfs
        subsetOfs := compatible.subsetOfs
        supersetOfs := fun v mem =>
          ⟨fun some_given => consistent.inSubset _ _ (asked v mem)
              (given_eq_some_iff.mpr ⟨some_given, rfl⟩) v mem,
            fun some_given => consistent.inOneOf _ _ (asked v mem)
              (given_eq_some_iff.mpr ⟨some_given, rfl⟩) v mem⟩
        value := fun v fixed filled => admits_batch_iff.mp (consistent.admitted v fixed filled)
        default := fun v last => admits_batch_iff.mp (default v last) }

/-! ### What is written -/

/-- Values with one name in a written object, the last one first. -/
lemma get?_ofList {α : Type} (written : List (String × α)) (name : String) :
    (Members.ofList written).get? name = written.reverse.lookup name := by
  induction written using List.reverseRecOn with
  | nil => rfl
  | append_singleton written entry ih =>
      rw [Members.ofList, List.foldl_concat, List.reverse_concat, List.lookup_cons]
      by_cases same : entry.1 = name
      · subst same
        rw [Members.get?_insert_self]
        simp
      · rw [Members.get?_insert_of_ne _ _ same, beq_eq_false_iff_ne.mpr (Ne.symm same)]
        exact ih

/-- The names of a written object, by first appearance. -/
lemma keys_ofList {α : Type} (written : List (String × α)) :
    (Members.ofList written).keys = (written.map Prod.fst).eraseDups := by
  rw [← List.enlist_nil_left]
  induction written using List.reverseRecOn with
  | nil => rfl
  | append_singleton written entry ih =>
      rw [Members.ofList, List.foldl_concat, Members.keys_insert_eq_enlist, List.map_append,
        List.enlist_append]
      exact congrArg (List.enlist · [entry.1]) ih

/-- Members that are not repeated can be told from their names. -/
lemma filterMap_keys {α : Type} {members : Members α} (distinct : members.Distinct) :
    (members.keys.filterMap fun name => (members.get? name).map fun value => (name, value)) =
      members := by
  rw [Members.keys, List.filterMap_map]
  refine Eq.trans (List.filterMap_congr fun entry mem => ?_) List.filterMap_some
  rw [Function.comp_apply, Members.get?_of_mem distinct mem]
  rfl

lemma lastUnknowns_eq : operators.lastUnknowns = Members.ofList operators.unknowns := by
  have distinct : (Members.ofList operators.unknowns).Distinct :=
    Members.distinct_foldl_insert List.nodup_nil
  rw [← filterMap_keys distinct, keys_ofList]
  simp only [get?_ofList]
  rfl

/-- The operators are written in the order of a combination. -/
lemma merged_eq : operators.merged = (batch operators).operators := by
  rw [merged, lastUnknowns_eq, Combined.operators]
  congr 2
  rw [batch]
  cases operators.essentials with
  | nil => rfl
  | cons first later => rfl

end Operators

/-! ### Policies -/

namespace Combination

/-- The combination is finished if all its parameters pass the last check. -/
lemma finish_eq_ok_iff {combination : Combination} {policy : Policy}
    (distinct : combination.Distinct) :
    combination.finish = .ok policy ↔
      (∀ entry ∈ combination, entry.2.checkDefault = .ok ()) ∧ combination.toPolicy = policy := by
  have checked : ∀ (rest : Combination) (before : Policy),
      (∃ policy, rest.foldlM (fun policy entry => do
        blame entry.1 entry.2.checkDefault
        return policy.putEntry entry.1 entry.2.operators) before = .ok policy) ↔
      ∀ entry ∈ rest, entry.2.checkDefault = .ok () := by
    intro rest
    induction rest with
    | nil => simp [pure, Except.pure]
    | cons entry rest ih =>
        intro before
        rw [List.forall_mem_cons, ← ih (before.putEntry entry.1 entry.2.operators)]
        cases default : entry.2.checkDefault with
        | error why => simp [default, blame, Except.mapError, bind, Except.bind]
        | ok _ => simp [default, blame, Except.mapError, bind, Except.bind, pure, Except.pure]
  constructor
  · intro h
    exact ⟨(checked combination Policy.empty).mp ⟨policy, h⟩,
      (congrArg Policy.mk (finish_entries distinct h)).symm⟩
  · rintro ⟨checks, rfl⟩
    obtain ⟨policy, h⟩ := (checked combination Policy.empty).mpr checks
    have h' : combination.finish = .ok policy := h
    rw [h', toPolicy, ← finish_entries distinct h']

/-- A combination can be told from its parameters. -/
lemma map_keys_running {combination : Combination} (distinct : combination.Distinct) :
    ((Members.keys combination).map fun parameter => (parameter, combination.running parameter)) =
      combination := by
  rw [Members.keys, List.map_map]
  refine Eq.trans (List.map_congr_left fun entry mem => ?_) (List.map_id combination)
  rw [Function.comp_apply, running, Members.get?_of_mem distinct mem]
  rfl

end Combination

namespace Policy

variable {policies : List Policy} {policy : Policy}

/-- The parameters that policies name, by first appearance. -/
def parameters (policies : List Policy) : List String :=
  (policies.flatMap fun policy => policy.entries.keys).eraseDups

/-- What all policies together say about a parameter. -/
def said (policies : List Policy) (parameter : String) : Operators :=
  policies.flatMap (operatorsOn parameter)

/-- What policies come to. -/
def merged (policies : List Policy) : Policy :=
  ⟨(parameters policies).map fun parameter => (parameter, (said policies parameter).merged)⟩

/-- What policies come to, as a combination. -/
def batch (policies : List Policy) : Combination :=
  (parameters policies).map fun parameter => (parameter, (said policies parameter).batch)

lemma parameters_eq_enlist : parameters policies =
    List.enlist [] (Members.keys (policies.flatMap entries)) := by
  rw [parameters, List.enlist_nil_left]
  congr 1
  rw [Members.keys, List.map_flatMap]
  rfl

lemma keys_batch : (batch policies).keys = parameters policies := by
  rw [Members.keys, batch, List.map_map]
  exact List.map_id _

lemma toPolicy_batch : (batch policies).toPolicy = merged policies := by
  rw [Combination.toPolicy, merged, batch, Members.mapValues, List.map_map]
  congr 1
  refine List.map_congr_left fun parameter _ => ?_
  rw [Operators.merged_eq]
  rfl

lemma mem_parameters {parameter : String} :
    parameter ∈ parameters policies ↔ parameter ∈ Members.keys (policies.flatMap entries) := by
  rw [parameters_eq_enlist, List.mem_enlist]
  simp

lemma distinct_batch : (batch policies).Distinct := by
  have listed : (Members.ofList (policies.flatMap entries)).keys = parameters policies := by
    rw [Operators.keys_ofList, parameters_eq_enlist, List.enlist_nil_left]
    rfl
  rw [Members.Distinct, keys_batch, ← listed]
  exact Members.distinct_foldl_insert List.nodup_nil

/-- Of a parameter that no policy names nothing is said. -/
lemma said_of_not_mem {parameter : String} (absent : parameter ∉ parameters policies) :
    said policies parameter = [] := by
  rw [said, ← Combination.operatorsOn_flatMap]
  exact Combination.operatorsOn_of_not_mem (mt mem_parameters.mpr absent)

lemma running_batch (parameter : String) :
    (batch policies).running parameter = (said policies parameter).batch := by
  by_cases named : parameter ∈ parameters policies
  · have mem : (parameter, (said policies parameter).batch) ∈ batch policies :=
      List.mem_map.mpr ⟨parameter, named, rfl⟩
    rw [Combination.running, Members.get?_of_mem distinct_batch mem, Option.getD_some]
  · have absent : Members.get? (batch policies) parameter = none := by
      refine (Members.get?_eq_none_iff _ parameter).mpr ?_
      rw [keys_batch]
      exact named
    rw [Combination.running, absent, said_of_not_mem named]
    rfl

/-- The entries of policies come to what is said about each parameter. -/
lemma collects_iff {combination : Combination} :
    Combination.Collects [] ⟨policies.flatMap entries⟩ combination ↔
      (∀ parameter ∈ parameters policies, (said policies parameter).Compatible ∧
        (said policies parameter).batch.Consistent) ∧ batch policies = combination := by
  constructor
  · intro collects
    have combined : ∀ parameter, (said policies parameter).Compatible ∧
        (said policies parameter).batch = combination.running parameter := by
      intro parameter
      have folded := collects.combined parameter
      rw [Combination.operatorsOn_flatMap] at folded
      exact Operators.foldlM_combine_eq_ok_iff.mp folded
    have keys : Members.keys combination = parameters policies :=
      collects.keys.trans parameters_eq_enlist.symm
    refine ⟨fun parameter named => ⟨(combined parameter).1, ?_⟩, ?_⟩
    · rw [(combined parameter).2]
      exact collects.consistent parameter (mem_parameters.mp named)
    · rw [← Combination.map_keys_running collects.distinct, keys, batch]
      exact List.map_congr_left fun parameter _ => by rw [(combined parameter).2]
  · rintro ⟨compatible, rfl⟩
    refine ⟨keys_batch.trans parameters_eq_enlist, fun parameter => ?_, fun parameter named => ?_⟩
    · rw [Combination.operatorsOn_flatMap, running_batch]
      refine Operators.foldlM_combine_eq_ok_iff.mpr ⟨?_, rfl⟩
      by_cases named : parameter ∈ parameters policies
      · exact (compatible parameter named).1
      · have nothing : policies.flatMap (operatorsOn parameter) = [] := said_of_not_mem named
        rw [nothing]
        exact ⟨by simp [Operators.values], by simp [Operators.oneOfs], by simp [Operators.subsetOfs]⟩
    · rw [running_batch]
      exact (compatible parameter (mem_parameters.mpr named)).2

/-- Policies that can be combined come to what is said about each parameter, and this has passed all
checks. -/
lemma merged_of_combine (h : combine policies = .ok policy) :
    merged policies = policy ∧ ∀ parameter ∈ parameters policies,
      (said policies parameter).batch.Consistent ∧
        (said policies parameter).batch.checkDefault = .ok () := by
  obtain ⟨combination, collects, finished⟩ := combine_eq_ok_iff.mp h
  obtain ⟨compatible, rfl⟩ := collects_iff.mp collects
  obtain ⟨checks, rfl⟩ := (Combination.finish_eq_ok_iff distinct_batch).mp finished
  exact ⟨toPolicy_batch.symm, fun parameter named => ⟨(compatible parameter named).2,
    checks _ (List.mem_map.mpr ⟨parameter, named, rfl⟩)⟩⟩

/-- What policies come to has an entry for every parameter they name. -/
lemma mem_merged {parameter : String} {operators : Operators} :
    (parameter, operators) ∈ (merged policies).entries ↔
      parameter ∈ parameters policies ∧ (said policies parameter).batch.operators = operators := by
  rw [merged, List.mem_map]
  constructor
  · rintro ⟨other, named, same⟩
    cases same
    exact ⟨named, Operators.merged_eq.symm⟩
  · rintro ⟨named, rfl⟩
    exact ⟨parameter, named, congrArg (Prod.mk parameter) Operators.merged_eq⟩

lemma distinct_merged : (merged policies).entries.Distinct := by
  rw [← toPolicy_batch, Combination.toPolicy, Members.Distinct, Members.keys_mapValues]
  exact distinct_batch

/-- What well-formed policies say is well-formed. -/
lemma wellFormed_said (wellFormed : ∀ policy ∈ policies, policy.WellFormed) (parameter : String) :
    ∀ op ∈ said policies parameter, op.config.WellFormed := by
  intro op mem
  obtain ⟨policy, policy_mem, operators, entry_mem, op_mem⟩ := mem_flatMap_operatorsOn.mp mem
  exact wellFormed policy policy_mem _ entry_mem op op_mem

/-- **Combining policies is looking at them all at once.**  It succeeds if what is said about each
parameter agrees, and then the result lists the parameters by first appearance, each with what its
operators come to.  All policies that were read are well-formed (`wellFormed_of_ofJson`). -/
theorem combine_eq_merged_iff (wellFormed : ∀ policy ∈ policies, policy.WellFormed) :
    combine policies = .ok policy ↔
      (∀ parameter ∈ parameters policies, (said policies parameter).Agree) ∧
        merged policies = policy := by
  have agree : ∀ parameter, (said policies parameter).Agree ↔ _ := fun parameter =>
    Operators.agree_iff (wellFormed_said wellFormed parameter)
  rw [combine_eq_ok_iff]
  constructor
  · rintro ⟨combination, collects, finished⟩
    obtain ⟨compatible, rfl⟩ := collects_iff.mp collects
    obtain ⟨checks, rfl⟩ := (Combination.finish_eq_ok_iff distinct_batch).mp finished
    refine ⟨fun parameter named => (agree parameter).mpr ⟨(compatible parameter named).1,
      (compatible parameter named).2, ?_⟩, toPolicy_batch.symm⟩
    exact checks _ (List.mem_map.mpr ⟨parameter, named, rfl⟩)
  · rintro ⟨agreed, rfl⟩
    refine ⟨batch policies, collects_iff.mpr ⟨fun parameter named => ?_, rfl⟩,
      (Combination.finish_eq_ok_iff distinct_batch).mpr ⟨fun entry mem => ?_, toPolicy_batch⟩⟩
    · obtain ⟨compatible, consistent, _⟩ := (agree parameter).mp (agreed parameter named)
      exact ⟨compatible, consistent⟩
    · obtain ⟨parameter, named, rfl⟩ := List.mem_map.mp mem
      exact ((agree parameter).mp (agreed parameter named)).2.2

/-- Policies of three levels, which speak of two parameters. -/
def ofThreeLevels : List Policy :=
  [allowing ["c", "b", "c"],
    ⟨[("contacts", [.essential true, .add (.many [.string "x", .string "y", .string "x"])]),
      ("scope", [.default (.string "b"), .subsetOf (.many [.string "a", .string "b"])])]⟩,
    ⟨[("scope", [.supersetOf (.one (.string "b"))]),
      ("contacts", [.unknown "regexp" (.string "z"), .add (.one (.string "w")), .essential false])]⟩]

/-- Three policies that agree come to one, and two that allow nothing in common do not agree. -/
theorem combine_eq_merged_ofThreeLevels :
    (∀ parameter ∈ ["scope", "contacts"], (said ofThreeLevels parameter).Agree) ∧
    merged ofThreeLevels =
      ⟨[("scope", [.default (.string "b"), .subsetOf (.many [.string "b"]),
          .supersetOf (.many [.string "b"])]),
        ("contacts", [.add (.many [.string "x", .string "y", .string "w"]), .essential true,
          .unknown "regexp" (.string "z")])]⟩ ∧
    ¬ ∀ parameter ∈ ["scope"], (said [allowing ["c", "b"], allowing ["a"]] parameter).Agree := by
  have wellFormed : ∀ policy ∈ ofThreeLevels, policy.WellFormed := by
    simp only [ofThreeLevels, allowing, Policy.WellFormed, List.forall_mem_cons, Operator.config,
      ValueList.toJson]
    simp [Json.WellFormed, Json.AllWellFormed]
  have wellFormed' : ∀ policy ∈ [allowing ["c", "b"], allowing ["a"]], policy.WellFormed := by
    simp [Policy.WellFormed, allowing, Operator.config, ValueList.toJson,
      Json.WellFormed, Json.AllWellFormed]
  have together := (combine_eq_merged_iff wellFormed).mp rfl
  refine ⟨together.1, together.2, fun agree => ?_⟩
  have combined := (combine_eq_merged_iff wellFormed').mpr ⟨agree, rfl⟩
  simp [show combine [allowing ["c", "b"], allowing ["a"]] = .error _ from rfl] at combined

end Policy

end Federation
