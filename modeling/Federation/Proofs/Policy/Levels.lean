import Federation.Proofs.Policy.Parameters
import Federation.Proofs.Policy.Reading

/-!
# Combining level by level

The policies of some levels of a chain can be combined first, and what comes out stands for them: put in
their place it gives the same result, down to the order of parameters and values, and the same policies
contradict each other.

**Parts.**  `Combined.Joins` says what two combinations of one parameter come to.  Seven of its parts are
alike: where one side asks for nothing the other one counts, and otherwise the two are put together
(`Meets`).  Joining is associative (`Combined.Joins.assoc`), but only for combinations that are
`Combined.Proper`: values are compared in both directions, and that needs well-formed ones.

**Operators.**  An operator is joined as a combination of its own (`Combined.combine_eq_ok_iff`), so
operators in a row are joined as what they come to by themselves (`Combined.foldlM_combine_iff`).  The
operators of a combination come to this combination (`Combined.foldlM_operators`).

**The theorem.**  `Policy.combine_levels` carries this to whole policies.
-/

namespace Federation

/-! ### Lists without repetition -/

/-- No value in the list equals an earlier one. -/
def Neat (values : List Json) : Prop :=
  values.Pairwise fun earlier later => (later == earlier) = false

lemma unite_assoc (xs ys zs : List Json) : unite xs (unite ys zs) = unite (unite xs ys) zs :=
  List.enlist_assoc (fun _ _ _ => Json.beq_trans) xs ys zs

lemma unite_of_neat {known new : List Json} (neat : Neat (known ++ new)) :
    unite known new = known ++ new := by
  induction new generalizing known with
  | nil => rw [List.append_nil]; rfl
  | cons v rest ih =>
      have fresh : ¬ known.contains v = true := by
        rw [List.contains_iff_exists_mem_beq]
        rintro ⟨w, mem, equal⟩
        have differs := (List.pairwise_append.mp neat).2.2 w mem v List.mem_cons_self
        rw [differs] at equal
        cases equal
      rw [unite_eq_enlist, List.enlist_cons, if_neg fresh, ← unite_eq_enlist, ih (by simpa using neat)]
      simp

lemma unite_nil_of_neat {values : List Json} (neat : Neat values) : unite [] values = values := by
  have neat' : Neat ([] ++ values) := neat
  exact unite_of_neat neat'

lemma neat_unite {known : List Json} (neat : Neat known) (new : List Json) :
    Neat (unite known new) := by
  induction new generalizing known with
  | nil => exact neat
  | cons v rest ih =>
      rw [unite_eq_enlist, List.enlist_cons, ← unite_eq_enlist]
      refine ih ?_
      split
      · exact neat
      · rename_i fresh
        refine List.pairwise_append.mpr ⟨neat, List.pairwise_singleton _ v, fun w mem u mem' => ?_⟩
        rw [List.mem_singleton.mp mem', Bool.eq_false_iff]
        intro equal
        exact fresh (List.contains_iff_exists_mem_beq.mpr ⟨w, mem, equal⟩)

lemma contains_unite_nil (values : List Json) (v : Json) :
    (unite [] values).contains v = values.contains v := by
  rw [Bool.eq_iff_iff]
  constructor
  · exact Json.contains_of_subset (unite_subset [] values)
  · exact List.contains_enlist fun _ _ _ => Json.beq_trans

/-! ### Parts -/

section Meets

variable {α : Type} {f : α → α → α → Prop} {P : α → Prop} {a b c r : Option α}

/-- What two optional parts come to.  A part that is there alone is kept, and `f` says what two parts
come to. -/
def Meets (f : α → α → α → Prop) : Option α → Option α → Option α → Prop
  | none, b, c => b = c
  | some x, none, c => some x = c
  | some x, some y, c => ∃ z, f x y z ∧ some z = c

lemma meets_none_right : Meets f a none c ↔ a = c := by
  cases a <;> exact Iff.rfl

/-- What holds of the two parts holds of what they come to. -/
lemma Meets.induction (meets : Meets f a b c) (keeps : ∀ x y z, f x y z → P x → P y → P z)
    (left : ∀ x, a = some x → P x) (right : ∀ x, b = some x → P x) : ∀ x, c = some x → P x := by
  cases a with
  | none =>
      cases meets
      exact right
  | some x =>
      cases b with
      | none =>
          cases meets
          exact left
      | some y =>
          obtain ⟨z, joined, rfl⟩ := meets
          intro _ same
          cases same
          exact keeps x y z joined (left x rfl) (right y rfl)

/-- Optional parts are put together in any grouping if parts are. -/
lemma Meets.assoc
    (assoc : ∀ x y z w, P x → P y → P z → ((∃ m, f x y m ∧ f m z w) ↔ ∃ m, f y z m ∧ f x m w))
    (ha : ∀ x, a = some x → P x) (hb : ∀ x, b = some x → P x) (hc : ∀ x, c = some x → P x) :
    (∃ m, Meets f a b m ∧ Meets f m c r) ↔ ∃ m, Meets f b c m ∧ Meets f a m r := by
  cases a with
  | none => simp [Meets]
  | some x =>
      cases b with
      | none => simp [Meets]
      | some y =>
          cases c with
          | none => simp [Meets]
          | some z =>
              have inner := fun w => assoc x y z w (ha x rfl) (hb y rfl) (hc z rfl)
              constructor
              · rintro ⟨_, ⟨m, left, rfl⟩, w, right, rfl⟩
                obtain ⟨n, left', right'⟩ := (inner w).mp ⟨m, left, right⟩
                exact ⟨some n, ⟨n, left', rfl⟩, w, right', rfl⟩
              · rintro ⟨_, ⟨m, left, rfl⟩, w, right, rfl⟩
                obtain ⟨n, left', right'⟩ := (inner w).mpr ⟨m, left, right⟩
                exact ⟨some n, ⟨n, left', rfl⟩, w, right', rfl⟩

/-- Parts that always go together are no obstacle. -/
lemma Meets.assoc_of_total {g : α → α → α} (assoc : ∀ x y z, g x (g y z) = g (g x y) z) :
    (∃ m, Meets (fun x y z => g x y = z) a b m ∧ Meets (fun x y z => g x y = z) m c r) ↔
      ∃ m, Meets (fun x y z => g x y = z) b c m ∧ Meets (fun x y z => g x y = z) a m r :=
  Meets.assoc (P := fun _ => True) (fun x y z w _ _ _ => by simp [assoc]) (fun _ _ => trivial)
    (fun _ _ => trivial) fun _ _ => trivial

end Meets

/-- Two fixed values come to the first one if they are equal. -/
def Agrees (x y z : Json) : Prop :=
  (x == y) = true ∧ x = z

/-- Two lists of allowed values come to what they have in common, if there is anything. -/
def Common (xs ys zs : List Json) : Prop :=
  (xs.filter fun v => ys.contains v) = zs ∧ zs ≠ []

lemma Agrees.assoc {x y z w : Json} (hx : x.WellFormed) (hy : y.WellFormed) :
    (∃ m, Agrees x y m ∧ Agrees m z w) ↔ ∃ m, Agrees y z m ∧ Agrees x m w := by
  constructor
  · rintro ⟨_, ⟨first, rfl⟩, second, rfl⟩
    exact ⟨y, ⟨Json.beq_trans (Json.beq_symm hx hy first) second, rfl⟩, first, rfl⟩
  · rintro ⟨_, ⟨first, rfl⟩, second, rfl⟩
    exact ⟨x, ⟨second, rfl⟩, Json.beq_trans second first, rfl⟩

/-- The values of a list that are in two others are those that are in what these have in common. -/
lemma filter_common {xs ys zs : List Json} (hxs : ∀ v ∈ xs, v.WellFormed)
    (hys : ∀ v ∈ ys, v.WellFormed) :
    ((xs.filter fun v => ys.contains v).filter fun v => zs.contains v) =
      xs.filter fun v => (ys.filter fun u => zs.contains u).contains v := by
  rw [List.filter_filter]
  refine List.filter_congr fun v mem => ?_
  rw [Bool.eq_iff_iff, Bool.and_eq_true]
  simp only [List.contains_iff_exists_mem_beq, List.mem_filter]
  constructor
  · rintro ⟨⟨t, inZs, equal'⟩, u, inYs, equal⟩
    have flipped := Json.beq_symm (hxs v mem) (hys u inYs) equal
    exact ⟨u, ⟨inYs, t, inZs, Json.beq_trans flipped equal'⟩, equal⟩
  · rintro ⟨u, ⟨inYs, t, inZs, equal'⟩, equal⟩
    exact ⟨⟨t, inZs, Json.beq_trans equal equal'⟩, u, inYs, equal⟩

/-- A common part lists some of the values of the first list. -/
lemma Common.proper {xs ys zs : List Json} (common : Common xs ys zs)
    (first : Neat xs ∧ ∀ v ∈ xs, v.WellFormed) : Neat zs ∧ ∀ v ∈ zs, v.WellFormed := by
  obtain ⟨rfl, _⟩ := common
  exact ⟨first.1.sublist List.filter_sublist, fun v mem => first.2 v (List.mem_filter.mp mem).1⟩

lemma Common.assoc {xs ys zs ws : List Json} (hxs : ∀ v ∈ xs, v.WellFormed)
    (hys : ∀ v ∈ ys, v.WellFormed) :
    (∃ m, Common xs ys m ∧ Common m zs ws) ↔ ∃ m, Common ys zs m ∧ Common xs m ws := by
  constructor
  · rintro ⟨_, ⟨rfl, _⟩, rfl, some_left⟩
    rw [filter_common hxs hys] at some_left ⊢
    refine ⟨_, ⟨rfl, fun none_left => some_left ?_⟩, rfl, some_left⟩
    rw [none_left]
    simp
  · rintro ⟨_, ⟨rfl, _⟩, rfl, some_left⟩
    rw [← filter_common hxs hys] at some_left ⊢
    refine ⟨_, ⟨rfl, fun none_left => some_left ?_⟩, rfl, some_left⟩
    rw [none_left]
    simp

/-- Members are set in any grouping, as long as no name is set twice in between. -/
lemma Members.foldl_insert_assoc {α : Type} (xs : Members α) {ys : Members α} (zs : Members α)
    (distinct : ys.Distinct) :
    (zs.foldl (fun members entry => members.insert entry.1 entry.2) ys).foldl
        (fun members entry => members.insert entry.1 entry.2) xs =
      zs.foldl (fun members entry => members.insert entry.1 entry.2)
        (ys.foldl (fun members entry => members.insert entry.1 entry.2) xs) := by
  induction zs generalizing ys with
  | nil => rfl
  | cons entry rest ih =>
      rw [List.foldl_cons, List.foldl_cons, ih (distinct_insert distinct),
        foldl_insert_insert distinct]

lemma ValueList.wellFormed_of_toJson {list : ValueList} (wellFormed : list.toJson.WellFormed) :
    ∀ v ∈ list.values, v.WellFormed := by
  cases list with
  | many values => exact Json.allWellFormed_iff.mp wellFormed
  | one value =>
      intro v mem
      rw [List.mem_singleton.mp mem]
      exact wellFormed

namespace Combined

/-- What two combinations come to. -/
@[mk_iff]
structure Joins (a b c : Combined) : Prop where
  value : Meets Agrees a.value b.value c.value
  add : Meets (fun x y z => unite x y = z) a.add b.add c.add
  default : Meets (fun _ y z => y = z) a.default b.default c.default
  oneOf : Meets Common a.oneOf b.oneOf c.oneOf
  subsetOf : Meets Common a.subsetOf b.subsetOf c.subsetOf
  supersetOf : Meets (fun x y z => unite x y = z) a.supersetOf b.supersetOf c.supersetOf
  essential : Meets (fun x y z => (x || y) = z) a.essential b.essential c.essential
  unknown : b.unknown.foldl (fun members entry => members.insert entry.1 entry.2) a.unknown =
    c.unknown

/-- Values can be compared in both directions, and nothing is listed twice. -/
structure Proper (c : Combined) : Prop where
  value : ∀ v, c.value = some v → v.WellFormed
  add : ∀ values, c.add = some values → Neat values
  oneOf : ∀ values, c.oneOf = some values → Neat values ∧ ∀ v ∈ values, v.WellFormed
  subsetOf : ∀ values, c.subsetOf = some values → Neat values ∧ ∀ v ∈ values, v.WellFormed
  supersetOf : ∀ values, c.supersetOf = some values → Neat values
  unknown : c.unknown.Distinct

variable {a b c d : Combined} {op : Operator} {operators : Operators}

lemma proper_empty : empty.Proper where
  value := by simp [empty]
  add := by simp [empty]
  oneOf := by simp [empty]
  subsetOf := by simp [empty]
  supersetOf := by simp [empty]
  unknown := List.nodup_nil

lemma joins_empty_iff : Joins a empty c ↔ a = c := by
  constructor
  · intro joins
    obtain ⟨⟩ := a
    obtain ⟨⟩ := c
    rw [mk.injEq]
    exact ⟨meets_none_right.mp joins.value, meets_none_right.mp joins.add,
      meets_none_right.mp joins.default, meets_none_right.mp joins.oneOf,
      meets_none_right.mp joins.subsetOf, meets_none_right.mp joins.supersetOf,
      meets_none_right.mp joins.essential, joins.unknown⟩
  · rintro rfl
    exact ⟨meets_none_right.mpr rfl, meets_none_right.mpr rfl, meets_none_right.mpr rfl,
      meets_none_right.mpr rfl, meets_none_right.mpr rfl, meets_none_right.mpr rfl,
      meets_none_right.mpr rfl, rfl⟩

lemma Joins.proper (joins : Joins a b c) (ha : a.Proper) (hb : b.Proper) : c.Proper where
  value := joins.value.induction (fun _ _ _ agrees first _ => agrees.2 ▸ first) ha.value hb.value
  add := joins.add.induction (fun _ _ _ united first _ => united ▸ neat_unite first _) ha.add hb.add
  oneOf := joins.oneOf.induction (fun _ _ _ common first _ => common.proper first) ha.oneOf hb.oneOf
  subsetOf := joins.subsetOf.induction (fun _ _ _ common first _ => common.proper first) ha.subsetOf
    hb.subsetOf
  supersetOf := joins.supersetOf.induction (fun _ _ _ united first _ => united ▸ neat_unite first _)
    ha.supersetOf hb.supersetOf
  unknown := by
    rw [← joins.unknown]
    exact Members.distinct_foldl_insert ha.unknown

/-- **Combinations are joined in any grouping.** -/
theorem Joins.assoc (ha : a.Proper) (hb : b.Proper) (hc : c.Proper) :
    (∃ m, Joins a b m ∧ Joins m c d) ↔ ∃ m, Joins b c m ∧ Joins a m d := by
  have value : (∃ m, Meets Agrees a.value b.value m ∧ Meets Agrees m c.value d.value) ↔ _ :=
    Meets.assoc (fun _ _ _ _ hx hy _ => Agrees.assoc hx hy) ha.value hb.value hc.value
  have add : (∃ m, Meets _ a.add b.add m ∧ Meets _ m c.add d.add) ↔ _ :=
    Meets.assoc_of_total unite_assoc
  have default : (∃ m, Meets _ a.default b.default m ∧ Meets _ m c.default d.default) ↔ _ :=
    Meets.assoc_of_total (g := fun _ later => later) fun _ _ _ => rfl
  have oneOf : (∃ m, Meets Common a.oneOf b.oneOf m ∧ Meets Common m c.oneOf d.oneOf) ↔ _ :=
    Meets.assoc (fun _ _ _ _ hx hy _ => Common.assoc hx.2 hy.2) ha.oneOf hb.oneOf hc.oneOf
  have subsetOf :
      (∃ m, Meets Common a.subsetOf b.subsetOf m ∧ Meets Common m c.subsetOf d.subsetOf) ↔ _ :=
    Meets.assoc (fun _ _ _ _ hx hy _ => Common.assoc hx.2 hy.2) ha.subsetOf hb.subsetOf hc.subsetOf
  have supersetOf :
      (∃ m, Meets _ a.supersetOf b.supersetOf m ∧ Meets _ m c.supersetOf d.supersetOf) ↔ _ :=
    Meets.assoc_of_total unite_assoc
  have essential :
      (∃ m, Meets _ a.essential b.essential m ∧ Meets _ m c.essential d.essential) ↔ _ :=
    Meets.assoc_of_total (g := fun x y => x || y) fun x y z => (Bool.or_assoc x y z).symm
  have unknown := Members.foldl_insert_assoc a.unknown c.unknown hb.unknown
  constructor
  · rintro ⟨m, first, second⟩
    obtain ⟨value', v₁, v₂⟩ := value.mp ⟨_, first.value, second.value⟩
    obtain ⟨add', a₁, a₂⟩ := add.mp ⟨_, first.add, second.add⟩
    obtain ⟨default', d₁, d₂⟩ := default.mp ⟨_, first.default, second.default⟩
    obtain ⟨oneOf', o₁, o₂⟩ := oneOf.mp ⟨_, first.oneOf, second.oneOf⟩
    obtain ⟨subsetOf', s₁, s₂⟩ := subsetOf.mp ⟨_, first.subsetOf, second.subsetOf⟩
    obtain ⟨supersetOf', p₁, p₂⟩ := supersetOf.mp ⟨_, first.supersetOf, second.supersetOf⟩
    obtain ⟨essential', e₁, e₂⟩ := essential.mp ⟨_, first.essential, second.essential⟩
    have unknown' := second.unknown
    rw [← first.unknown, ← unknown] at unknown'
    exact ⟨⟨value', add', default', oneOf', subsetOf', supersetOf', essential', _⟩,
      ⟨v₁, a₁, d₁, o₁, s₁, p₁, e₁, rfl⟩, ⟨v₂, a₂, d₂, o₂, s₂, p₂, e₂, unknown'⟩⟩
  · rintro ⟨m, first, second⟩
    obtain ⟨value', v₁, v₂⟩ := value.mpr ⟨_, first.value, second.value⟩
    obtain ⟨add', a₁, a₂⟩ := add.mpr ⟨_, first.add, second.add⟩
    obtain ⟨default', d₁, d₂⟩ := default.mpr ⟨_, first.default, second.default⟩
    obtain ⟨oneOf', o₁, o₂⟩ := oneOf.mpr ⟨_, first.oneOf, second.oneOf⟩
    obtain ⟨subsetOf', s₁, s₂⟩ := subsetOf.mpr ⟨_, first.subsetOf, second.subsetOf⟩
    obtain ⟨supersetOf', p₁, p₂⟩ := supersetOf.mpr ⟨_, first.supersetOf, second.supersetOf⟩
    obtain ⟨essential', e₁, e₂⟩ := essential.mpr ⟨_, first.essential, second.essential⟩
    have unknown' := second.unknown
    rw [← first.unknown, unknown] at unknown'
    exact ⟨⟨value', add', default', oneOf', subsetOf', supersetOf', essential', _⟩,
      ⟨v₁, a₁, d₁, o₁, s₁, p₁, e₁, rfl⟩, ⟨v₂, a₂, d₂, o₂, s₂, p₂, e₂, unknown'⟩⟩

/-! ### Operators -/

/-- One operator as a combination. -/
def single : Operator → Combined
  | .value v => { empty with value := some v }
  | .add list => { empty with add := some (unite [] list.values) }
  | .default v => { empty with default := some v }
  | .oneOf list => { empty with oneOf := some (unite [] list.values) }
  | .subsetOf list => { empty with subsetOf := some (unite [] list.values) }
  | .supersetOf list => { empty with supersetOf := some (unite [] list.values) }
  | .essential required => { empty with essential := some required }
  | .unknown name config => { empty with unknown := [(name, config)] }

lemma proper_united {values : List Json} (wellFormed : ∀ v ∈ values, v.WellFormed) :
    Neat (unite [] values) ∧ ∀ v ∈ unite [] values, v.WellFormed :=
  ⟨neat_unite List.Pairwise.nil values, fun v mem => wellFormed v (unite_subset [] values mem)⟩

lemma proper_single (wellFormed : op.config.WellFormed) : (single op).Proper := by
  cases op with
  | value v =>
      refine { proper_empty with value := fun u same => ?_ }
      cases same
      exact wellFormed
  | add list =>
      refine { proper_empty with add := fun values same => ?_ }
      cases same
      exact neat_unite List.Pairwise.nil list.values
  | default v => exact { proper_empty with }
  | oneOf list =>
      refine { proper_empty with oneOf := fun values same => ?_ }
      cases same
      exact proper_united (ValueList.wellFormed_of_toJson wellFormed)
  | subsetOf list =>
      refine { proper_empty with subsetOf := fun values same => ?_ }
      cases same
      exact proper_united (ValueList.wellFormed_of_toJson wellFormed)
  | supersetOf list =>
      refine { proper_empty with supersetOf := fun values same => ?_ }
      cases same
      exact neat_unite List.Pairwise.nil list.values
  | essential required => exact { proper_empty with }
  | unknown name config => exact { proper_empty with unknown := by simp [single, Members.Distinct] }

lemma meets_unite_iff {running part : Option (List Json)} {new : List Json} :
    Meets (fun x y z => unite x y = z) running (some (unite [] new)) part ↔
      some (unite (running.getD []) new) = part := by
  cases running with
  | none => exact Iff.rfl
  | some running =>
      have absorbed : unite running (unite [] new) = unite running new := unite_assoc running [] new
      simp [Meets, absorbed]

lemma meets_common_iff (kind : Operator.Kind) {running part : Option (List Json)}
    {new : List Json} : Meets Common running (some (unite [] new)) part ↔
      ∃ list, narrow kind running new = .ok list ∧ some list = part := by
  cases running with
  | none => simp [Meets, narrow]
  | some running =>
      simp only [Meets, Common, narrow, contains_unite_nil]
      split
      · rename_i nothing
        simp [List.isEmpty_iff.mp nothing]
      · rename_i something
        rw [List.isEmpty_iff] at something
        simp [something]

/-- **Adding an operator is joining it.** -/
theorem combine_eq_ok_iff : a.combine op = .ok c ↔ Joins a (single op) c := by
  obtain ⟨value, add, default, oneOf, subsetOf, supersetOf, essential, unknown⟩ := a
  obtain ⟨value', add', default', oneOf', subsetOf', supersetOf', essential', unknown'⟩ := c
  -- an operator has one part, so all others are kept
  rw [joins_iff]
  cases op with
  | value v =>
      simp only [combine, single, empty, meets_none_right, List.foldl_nil]
      cases value with
      | none => simp [Meets]
      | some fixed => by_cases equal : (fixed == v) = true <;> simp [Meets, Agrees, equal]
  | add list => simp [combine, single, empty, meets_none_right, meets_unite_iff]
  | default v =>
      simp only [combine, single, empty, meets_none_right, List.foldl_nil]
      cases default <;> simp [Meets]
  | oneOf list =>
      simp only [combine, single, empty, meets_none_right, List.foldl_nil, meets_common_iff .oneOf,
        Except.bind_eq_ok_iff, Except.pure_eq_ok_iff, mk.injEq]
      grind
  | subsetOf list =>
      simp only [combine, single, empty, meets_none_right, List.foldl_nil,
        meets_common_iff .subsetOf, Except.bind_eq_ok_iff, Except.pure_eq_ok_iff, mk.injEq]
      grind
  | supersetOf list => simp [combine, single, empty, meets_none_right, meets_unite_iff]
  | essential required =>
      simp only [combine, single, empty, meets_none_right, List.foldl_nil]
      cases essential <;> simp [Meets]
  | unknown name config => simp [combine, single, empty, meets_none_right]

lemma combine_empty (op : Operator) : empty.combine op = .ok (single op) := by
  cases op <;> rfl

lemma proper_of_foldlM (proper : a.Proper) (each : ∀ op ∈ operators, (single op).Proper)
    (h : operators.foldlM combine a = .ok c) : c.Proper :=
  List.foldlM_induction (P := Proper) h proper fun op mem _ _ before combined =>
    (combine_eq_ok_iff.mp combined).proper before (each op mem)

/-- **Operators in a row are joined as what they come to by themselves.** -/
theorem foldlM_combine_iff (proper : a.Proper) (each : ∀ op ∈ operators, (single op).Proper) :
    operators.foldlM combine a = .ok c ↔
      ∃ m, operators.foldlM combine empty = .ok m ∧ Joins a m c := by
  induction operators generalizing a c with
  | nil => simp [joins_empty_iff, pure, Except.pure]
  | cons op rest ih =>
      have first := each op List.mem_cons_self
      have later := fun other mem => each other (List.mem_cons_of_mem op mem)
      have grouped : ∀ m, rest.foldlM combine empty = .ok m →
          ((∃ n, Joins a (single op) n ∧ Joins n m c) ↔ ∃ n, Joins (single op) m n ∧ Joins a n c) :=
        fun m rest_ok => Joins.assoc proper first (proper_of_foldlM proper_empty later rest_ok)
      rw [List.foldlM_cons, List.foldlM_cons, combine_empty, Except.bind_eq_ok_iff]
      constructor
      · rintro ⟨n, combined, rest_ok⟩
        have joins := combine_eq_ok_iff.mp combined
        obtain ⟨m, rest_ok, joins'⟩ := (ih (joins.proper proper first) later).mp rest_ok
        obtain ⟨n', inner, outer⟩ := (grouped m rest_ok).mp ⟨n, joins, joins'⟩
        exact ⟨n', (ih first later).mpr ⟨m, rest_ok, inner⟩, outer⟩
      · rintro ⟨n', rest_ok, outer⟩
        obtain ⟨m, rest_ok, inner⟩ := (ih first later).mp rest_ok
        obtain ⟨n, joins, joins'⟩ := (grouped m rest_ok).mpr ⟨n', inner, outer⟩
        exact ⟨n, combine_eq_ok_iff.mpr joins,
          (ih (joins.proper proper first) later).mpr ⟨m, rest_ok, joins'⟩⟩

/-- Each part of a combination is added by its operator, if there is one. -/
lemma foldlM_part {α : Type} {part : Option α} {make : α → Operator}
    (earlier : operators.foldlM combine a = .ok b) (absent : part = none → b = c)
    (present : ∀ x, part = some x → b.combine (make x) = .ok c) :
    (operators ++ (part.map make).toList).foldlM combine a = .ok c := by
  rw [List.foldlM_append, Except.bind_eq_ok_iff]
  refine ⟨b, earlier, ?_⟩
  cases part with
  | none =>
      rw [absent rfl]
      rfl
  | some x => simp [present x rfl]

lemma foldlM_unknown (members : Members Json) :
    (members.map fun entry => Operator.unknown entry.1 entry.2).foldlM combine a =
      .ok { a with unknown :=
              members.foldl (fun members entry => members.insert entry.1 entry.2) a.unknown } := by
  induction members generalizing a with
  | nil => rfl
  | cons entry rest ih =>
      rw [List.map_cons, List.foldlM_cons]
      exact ih

/-- **The operators of a combination come to this combination.** -/
theorem foldlM_operators (proper : c.Proper) : c.operators.foldlM combine empty = .ok c := by
  obtain ⟨value, add, default, oneOf, subsetOf, supersetOf, essential, unknown⟩ := c
  -- a list is united with nothing or narrows nothing, and in both cases it is kept
  have kept : ∀ {values}, Neat values → unite [] values = values := unite_nil_of_neat
  rw [operators, List.foldlM_append, Except.bind_eq_ok_iff]
  refine ⟨⟨value, add, default, oneOf, subsetOf, supersetOf, essential, []⟩, ?_, ?_⟩
  · -- part by part, from the last one back to the first one
    refine foldlM_part (b := ⟨value, add, default, oneOf, subsetOf, supersetOf, none, []⟩) ?_
      (by rintro rfl; rfl) (by rintro v rfl; simp [combine])
    refine foldlM_part (b := ⟨value, add, default, oneOf, subsetOf, none, none, []⟩) ?_
      (by rintro rfl; rfl)
      (by rintro vs rfl; simp [combine, ValueList.values, kept (proper.supersetOf vs rfl)])
    refine foldlM_part (b := ⟨value, add, default, oneOf, none, none, none, []⟩) ?_
      (by rintro rfl; rfl)
      (by rintro vs rfl; simp [combine, narrow, ValueList.values, kept (proper.subsetOf vs rfl).1])
    refine foldlM_part (b := ⟨value, add, default, none, none, none, none, []⟩) ?_
      (by rintro rfl; rfl)
      (by rintro vs rfl; simp [combine, narrow, ValueList.values, kept (proper.oneOf vs rfl).1])
    refine foldlM_part (b := ⟨value, add, none, none, none, none, none, []⟩) ?_
      (by rintro rfl; rfl) (by rintro v rfl; rfl)
    refine foldlM_part (b := ⟨value, none, none, none, none, none, none, []⟩) ?_
      (by rintro rfl; rfl)
      (by rintro vs rfl; simp [combine, ValueList.values, kept (proper.add vs rfl)])
    cases value with
    | none => rfl
    | some v => rfl
  · have listed : Members.ofList unknown = unknown := Members.ofList_of_distinct proper.unknown
    rw [foldlM_unknown]
    exact congrArg (fun members => Except.ok
      (mk value add default oneOf subsetOf supersetOf essential members)) listed

lemma proper_operators (proper : c.Proper) (mem : op ∈ c.operators) : (single op).Proper := by
  cases op with
  | value v =>
      have found : c.value = some v := by simpa [operators] using mem
      exact { proper_empty with value := fun u same => proper.value u (found.trans same) }
  | add list =>
      refine { proper_empty with add := fun values same => ?_ }
      cases same
      exact neat_unite List.Pairwise.nil list.values
  | default v => exact { proper_empty with }
  | oneOf list =>
      obtain ⟨values, found, rfl⟩ : ∃ values, c.oneOf = some values ∧ .many values = list := by
        simpa [operators] using mem
      refine { proper_empty with oneOf := fun united same => ?_ }
      cases same
      exact proper_united (proper.oneOf values found).2
  | subsetOf list =>
      obtain ⟨values, found, rfl⟩ : ∃ values, c.subsetOf = some values ∧ .many values = list := by
        simpa [operators] using mem
      refine { proper_empty with subsetOf := fun united same => ?_ }
      cases same
      exact proper_united (proper.subsetOf values found).2
  | supersetOf list =>
      refine { proper_empty with supersetOf := fun values same => ?_ }
      cases same
      exact neat_unite List.Pairwise.nil list.values
  | essential required => exact { proper_empty with }
  | unknown name config =>
      exact { proper_empty with unknown := by simp [single, Members.Distinct] }

/-- Operators and what they come to by themselves can stand for each other. -/
lemma foldlM_operators_iff (proper : a.Proper) (each : ∀ op ∈ operators, (single op).Proper)
    (h : operators.foldlM combine empty = .ok b) :
    b.operators.foldlM combine a = .ok c ↔ operators.foldlM combine a = .ok c := by
  have proper' := proper_of_foldlM proper_empty each h
  rw [foldlM_combine_iff proper each, foldlM_combine_iff proper fun _ => proper_operators proper', h,
    foldlM_operators proper']

end Combined

/-! ### Policies -/

namespace Combination

/-- What has been combined, as a policy. -/
def toPolicy (combination : Combination) : Policy :=
  ⟨combination.mapValues Combined.operators⟩

/-- The policy says about a parameter what has been combined for it. -/
lemma operatorsOn_toPolicy {combination : Combination} (distinct : combination.Distinct)
    (parameter : String) :
    combination.toPolicy.operatorsOn parameter = (combination.running parameter).operators := by
  induction combination with
  | nil => rfl
  | cons entry rest ih =>
      obtain ⟨name, c⟩ := entry
      obtain ⟨fresh, distinct'⟩ := List.nodup_cons.mp distinct
      have apart : (toPolicy ((name, c) :: rest)).operatorsOn parameter =
          (if name = parameter then c.operators else []) ++ (toPolicy rest).operatorsOn parameter :=
        operatorsOn_cons name _
      rw [apart, ih distinct']
      by_cases same : name = parameter
      · subst same
        have absent : Members.get? rest name = none := (Members.get?_eq_none_iff rest name).mpr fresh
        simp [running, Members.get?, absent, Combined.operators, Combined.empty]
      · rw [if_neg same, running, running, Members.get?_cons_of_ne same]
        rfl

lemma Collects.distinct {added : Policy} {after : Combination} (collects : Collects [] added after) :
    after.Distinct := by
  have nothing : Members.Distinct ([] : Combination) := List.nodup_nil
  exact (extends_of_addPolicy ((addPolicy_eq_ok_iff nothing).mpr collects)).distinct nothing

/-- Entries can stand for others that name the same parameters and come to the same for each. -/
lemma Collects.replace {added added' : Policy} {after : Combination} (collects : Collects [] added after)
    (keys : List.enlist [] added'.entries.keys = List.enlist [] added.entries.keys)
    (combined : ∀ parameter c,
      (added.operatorsOn parameter).foldlM Combined.combine Combined.empty = .ok c →
        (added'.operatorsOn parameter).foldlM Combined.combine Combined.empty = .ok c) :
    Collects [] added' after where
  keys := collects.keys.trans keys.symm
  combined := fun parameter => combined parameter _ (collects.combined parameter)
  consistent := by
    intro parameter mem
    have listed := List.mem_enlist.mpr (.inr mem : parameter ∈ [] ∨ _)
    rw [keys, List.mem_enlist] at listed
    exact collects.consistent parameter (listed.resolve_left List.not_mem_nil)

end Combination

namespace Policy

variable {level above below : List Policy} {policy : Policy} {combination : Combination}

lemma combine_eq_ok_iff {policies : List Policy} : combine policies = .ok policy ↔
    ∃ combination, Combination.Collects [] ⟨policies.flatMap entries⟩ combination ∧
      Combination.finish combination = .ok policy := by
  have nothing : Members.Distinct ([] : Combination) := List.nodup_nil
  rw [combine, Except.bind_eq_ok_iff, Combination.foldlM_addPolicy]
  exact exists_congr fun combination => and_congr_left' (Combination.addPolicy_eq_ok_iff nothing)

/-- Parameters that have been listed for a level are listed where the level stands. -/
lemma keys_level (above below : List Policy)
    (keys : combination.keys = List.enlist [] (Members.keys (level.flatMap entries))) :
    List.enlist [] (Members.keys ((above ++ [combination.toPolicy] ++ below).flatMap entries)) =
      List.enlist [] (Members.keys ((above ++ level ++ below).flatMap entries)) := by
  have apart : ∀ xs ys : Members Operators, Members.keys (xs ++ ys) = xs.keys ++ ys.keys :=
    fun _ _ => List.map_append
  have trans : ∀ a b c : String, a == b → b == c → a == c := by simp
  simp only [List.flatMap_append, List.flatMap_singleton, apart, Combination.toPolicy,
    Members.keys_mapValues, keys, List.enlist_append, List.enlist_assoc trans, List.enlist_nil]

/-- What a level comes to for a parameter stands where the operators of the level stand. -/
lemma combined_level {parameter : String} {c : Combined}
    (proper : ∀ p ∈ above ++ level ++ below, ∀ op ∈ p.operatorsOn parameter,
      (Combined.single op).Proper)
    (distinct : combination.Distinct)
    (combined : (operatorsOn parameter ⟨level.flatMap entries⟩).foldlM Combined.combine
      Combined.empty = .ok (combination.running parameter)) :
    (operatorsOn parameter ⟨(above ++ [combination.toPolicy] ++ below).flatMap entries⟩).foldlM
        Combined.combine Combined.empty = .ok c ↔
      (operatorsOn parameter ⟨(above ++ level ++ below).flatMap entries⟩).foldlM
        Combined.combine Combined.empty = .ok c := by
  have each : ∀ ps : List Policy, ps ⊆ above ++ level ++ below →
      ∀ op ∈ ps.flatMap (operatorsOn parameter), (Combined.single op).Proper := by
    intro ps subset op mem
    obtain ⟨p, p_mem, op_mem⟩ := List.mem_flatMap.mp mem
    exact proper p (subset p_mem) op op_mem
  rw [Combination.operatorsOn_flatMap] at combined ⊢
  rw [Combination.operatorsOn_flatMap]
  simp only [List.flatMap_append, List.flatMap_singleton, List.foldlM_append,
    Except.bind_eq_ok_iff, Combination.operatorsOn_toPolicy distinct]
  refine exists_congr fun b => and_congr_left' (exists_congr fun a => and_congr_right fun first => ?_)
  have proper_a := Combined.proper_of_foldlM Combined.proper_empty
    (each above (by simp [List.append_assoc])) first
  exact Combined.foldlM_operators_iff proper_a (each level (by simp [List.append_assoc])) combined

/-- The policy that a level comes to stands for it. -/
lemma combine_level_iff (wellFormed : ∀ p ∈ above ++ level ++ below, p.WellFormed)
    (h : combine level = .ok policy) {result : Policy} :
    combine (above ++ [policy] ++ below) = .ok result ↔
      combine (above ++ level ++ below) = .ok result := by
  obtain ⟨combination, collects, finished⟩ := combine_eq_ok_iff.mp h
  have same : policy = combination.toPolicy :=
    congrArg mk (Combination.finish_entries collects.distinct finished)
  subst same
  have proper : ∀ parameter, ∀ p ∈ above ++ level ++ below, ∀ op ∈ p.operatorsOn parameter,
      (Combined.single op).Proper := by
    intro parameter p mem op op_mem
    obtain ⟨operators, entry_mem, op_mem⟩ := mem_operatorsOn.mp op_mem
    exact Combined.proper_single (wellFormed p mem _ entry_mem op op_mem)
  have keys := keys_level above below collects.keys
  have combined := fun parameter c =>
    combined_level (c := c) (proper parameter) collects.distinct (collects.combined parameter)
  rw [combine_eq_ok_iff, combine_eq_ok_iff]
  refine exists_congr fun after => and_congr_left' ⟨fun collects' => ?_, fun collects' => ?_⟩
  · exact collects'.replace keys.symm fun parameter c => (combined parameter c).mp
  · exact collects'.replace keys fun parameter c => (combined parameter c).mpr

/-- **Levels can be combined first.**  The policy that some policies come to stands for them: in their
place it gives the same result, or none if they give none, and by itself it is its own result.  All
policies that were read are well-formed (`wellFormed_of_ofJson`). -/
theorem combine_levels (wellFormed : ∀ p ∈ above ++ level ++ below, p.WellFormed)
    (h : combine level = .ok policy) :
    (∀ result, combine (above ++ [policy] ++ below) = .ok result ↔
      combine (above ++ level ++ below) = .ok result) ∧
    combine [policy] = .ok policy := by
  have alone : ∀ p ∈ [] ++ level ++ [], p.WellFormed := fun p mem =>
    wellFormed p (List.mem_append_left _ (List.mem_append_right _ (by simpa using mem)))
  have itself := (combine_level_iff alone h).mpr (by simpa using h)
  exact ⟨fun result => combine_level_iff wellFormed h, by simpa using itself⟩

/-- A policy that allows some values of a parameter. -/
def allowing (values : List String) : Policy :=
  ⟨[("scope", [.subsetOf (.many (values.map .string))])]⟩

/-- A policy that requires a value of a parameter. -/
def requiring (value : String) : Policy :=
  ⟨[("scope", [.supersetOf (.one (.string value))])]⟩

/-- Two of four policies are combined beforehand, and nothing changes. -/
theorem combine_levels_scope :
    ∃ policy result, combine [allowing ["c", "b"], requiring "b"] = .ok policy ∧
      combine [allowing ["a", "b", "c"], policy, allowing ["b", "a"]] = .ok result ∧
      combine [allowing ["a", "b", "c"], allowing ["c", "b"], requiring "b", allowing ["b", "a"]] =
        .ok result ∧
      combine [policy] = .ok policy := by
  have wellFormed : ∀ p ∈ [allowing ["a", "b", "c"]] ++ [allowing ["c", "b"], requiring "b"] ++
      [allowing ["b", "a"]], p.WellFormed := by
    simp [Policy.WellFormed, allowing, requiring, Operator.config, ValueList.toJson,
      Json.WellFormed, Json.AllWellFormed]
  have together := combine_levels wellFormed rfl
  exact ⟨_, _, rfl, rfl, (together.1 _).mp rfl, together.2⟩

end Policy

end Federation
