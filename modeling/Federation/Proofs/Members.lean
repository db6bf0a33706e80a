import Federation.Members
import Mathlib.Data.List.Nodup
import Mathlib.Data.String.Basic
import Mathlib.Tactic.Lemma

/-!
# Members by name

How `Members.get?` sees a list as a map, for lists in which no name occurs twice.

**Lookup.**  A lookup finds a member of the list (`Members.mem_of_get?`), and in a list of distinct
names every member (`Members.get?_of_mem`).

**Changes.**  Setting members keeps names distinct and leaves other names alone, so does removing one,
and mapping the values changes no name.  A list of distinct names is made from itself
(`Members.ofList_of_distinct`).  `Members.assign` sets a member or removes it, and
`Members.filter_keys_assign` says which names are left and where.

**Sorted lists.**  Members that are set one after the other into a sorted list end up sorted
(`Members.Sorted.insertSorted`), and sorted members are set as they stand
(`Members.foldlM_of_sorted`).
-/

namespace Federation.Members

variable {α β : Type} {members : Members α} {name other : String} {value : α}

/-! ### Lookup -/

lemma get?_cons_of_ne {key : String} (h : key ≠ name) :
    get? ((key, value) :: members) name = get? members name :=
  if_neg h

lemma mem_of_get? (h : members.get? name = some value) : (name, value) ∈ members := by
  induction members with
  | nil => cases h
  | cons entry rest ih =>
      obtain ⟨key, found⟩ := entry
      by_cases same : key = name
      · have here : some found = some value := by simpa [get?, same] using h
        rw [← Option.some.inj here, ← same]
        exact List.mem_cons_self
      · rw [get?_cons_of_ne same] at h
        exact List.mem_cons_of_mem _ (ih h)

lemma get?_of_mem (distinct : members.Distinct) (mem : (name, value) ∈ members) :
    members.get? name = some value := by
  induction members with
  | nil => cases mem
  | cons entry rest ih =>
      obtain ⟨fresh, distinct'⟩ := List.nodup_cons.mp distinct
      rcases List.mem_cons.mp mem with rfl | mem
      · simp [get?]
      · have named : name ∈ keys rest := List.mem_map_of_mem mem
        have differs : entry.1 ≠ name := fun same => fresh (same ▸ named)
        rw [get?_cons_of_ne differs]
        exact ih distinct' mem

lemma has_iff : members.has name = true ↔ name ∈ members.keys := by
  rw [has, Option.isSome_iff_ne_none, ne_eq, get?_eq_none_iff, not_not]

/-- A name has one value. -/
lemma eq_of_mem {value' : α} (distinct : members.Distinct) (mem : (name, value) ∈ members)
    (mem' : (name, value') ∈ members) : value = value' :=
  Option.some.inj ((get?_of_mem distinct mem).symm.trans (get?_of_mem distinct mem'))

/-- Lists of distinct names are equal if they have the same names in the same order and the same values
under them. -/
lemma ext_of_distinct {members' : Members α} (distinct : members.Distinct)
    (distinct' : members'.Distinct) (sameKeys : members.keys = members'.keys)
    (same : ∀ name ∈ members'.keys, members.get? name = members'.get? name) :
    members = members' := by
  induction members generalizing members' with
  | nil =>
      cases members' with
      | nil => rfl
      | cons entry rest => cases sameKeys
  | cons entry rest ih =>
      cases members' with
      | nil => cases sameKeys
      | cons entry' rest' =>
          obtain ⟨key, value⟩ := entry
          obtain ⟨key', value'⟩ := entry'
          obtain ⟨rfl, sameRest⟩ := List.cons.inj sameKeys
          obtain ⟨fresh, distinct⟩ := List.nodup_cons.mp distinct
          obtain ⟨fresh', distinct'⟩ := List.nodup_cons.mp distinct'
          have here : some value = some value' := by
            simpa [get?] using same key List.mem_cons_self
          have later : rest = rest' := by
            refine ih distinct distinct' sameRest fun name mem => ?_
            have differs : key ≠ name := by
              rintro rfl
              exact fresh' mem
            have elsewhere := same name (List.mem_cons_of_mem key mem)
            rwa [get?_cons_of_ne differs, get?_cons_of_ne differs] at elsewhere
          rw [Option.some.inj here, later]

/-- Lists of distinct names with the same values under all names have the same members, in some order. -/
lemma perm_of_get? {members' : Members α} (distinct : members.Distinct) (distinct' : members'.Distinct)
    (same : ∀ name, members.get? name = members'.get? name) : members.Perm members' := by
  have nodup : members.Nodup := List.Nodup.of_map Prod.fst distinct
  have nodup' : members'.Nodup := List.Nodup.of_map Prod.fst distinct'
  refine (List.perm_ext_iff_of_nodup nodup nodup').mpr fun entry => ?_
  constructor
  · intro mem
    exact mem_of_get? ((same entry.1).symm.trans (get?_of_mem distinct mem))
  · intro mem
    exact mem_of_get? ((same entry.1).trans (get?_of_mem distinct' mem))

/-- The order of distinct names does not matter to a lookup. -/
lemma get?_of_perm {members' : Members α} (distinct : members.Distinct) (perm : members'.Perm members)
    (name : String) : members'.get? name = members.get? name := by
  have distinct' : members'.Distinct := (perm.map Prod.fst).nodup_iff.mpr distinct
  refine Option.ext fun value => ?_
  constructor
  · intro found
    exact get?_of_mem distinct (perm.mem_iff.mp (mem_of_get? found))
  · intro found
    exact get?_of_mem distinct' (perm.mem_iff.mpr (mem_of_get? found))

/-- Of two lists in a row, the first one that has the name counts. -/
lemma get?_append (members further : Members α) (name : String) :
    get? (members ++ further) name = (get? members name).or (get? further name) := by
  induction members with
  | nil => rfl
  | cons entry rest ih =>
      by_cases same : entry.1 = name
      · simp [get?, same]
      · rw [List.cons_append, get?_cons_of_ne same, get?_cons_of_ne same, ih]

/-! ### Changes -/

/-- A function that puts an item into a list, in place of another, in front of one or at the end, brings in
no item but this one. -/
lemma eq_or_mem_of_puts {γ : Type} (put : List γ → List γ) {new item : γ} {items : List γ}
    (last : put [] = [new])
    (step : ∀ first rest, put (first :: rest) = new :: rest ∨ put (first :: rest) = new :: first :: rest ∨
      put (first :: rest) = first :: put rest)
    (mem : item ∈ put items) : item = new ∨ item ∈ items := by
  induction items with
  | nil =>
      rw [last] at mem
      exact .inl (List.mem_singleton.mp mem)
  | cons first rest ih =>
      rcases step first rest with here | front | later
      · rw [here] at mem
        exact (List.mem_cons.mp mem).imp_right (List.mem_cons_of_mem first)
      · rw [front] at mem
        exact List.mem_cons.mp mem
      · rw [later] at mem
        rcases List.mem_cons.mp mem with rfl | mem
        · exact .inr List.mem_cons_self
        · exact (ih mem).imp_right (List.mem_cons_of_mem first)

lemma eq_or_mem_of_mem_insert {entry : String × α} (mem : entry ∈ members.insert name value) :
    entry = (name, value) ∨ entry ∈ members := by
  refine eq_or_mem_of_puts (insert · name value) rfl ?_ mem
  rintro ⟨key, old⟩ rest
  dsimp only [insert]
  split
  · exact .inl rfl
  · exact .inr (.inr rfl)

lemma distinct_insert (distinct : members.Distinct) : (members.insert name value).Distinct := by
  rw [Distinct, keys_insert]
  split
  · exact distinct
  · rename_i fresh
    rw [← List.concat_eq_append]
    exact distinct.concat fresh

lemma distinct_foldl_insert {further : List (String × α)} (distinct : members.Distinct) :
    Distinct (further.foldl (fun members entry => insert members entry.1 entry.2) members) := by
  induction further generalizing members with
  | nil => exact distinct
  | cons entry rest ih => exact ih (distinct_insert distinct)

lemma mem_keys_insert :
    other ∈ (members.insert name value).keys ↔ other = name ∨ other ∈ members.keys := by
  rw [keys_insert]
  split
  · rename_i present
    constructor
    · exact .inr
    · rintro (rfl | mem)
      · exact present
      · exact mem
  · rw [List.mem_append, List.mem_singleton]
    exact Or.comm

/-- Setting further members leaves a name alone that is not among theirs. -/
lemma get?_foldl_insert {further : List (String × α)} (fresh : ∀ entry ∈ further, entry.1 ≠ name) :
    get? (further.foldl (fun members entry => insert members entry.1 entry.2) members) name =
      get? members name := by
  induction further generalizing members with
  | nil => rfl
  | cons entry rest ih =>
      rw [List.foldl_cons, ih fun other mem => fresh other (List.mem_cons_of_mem entry mem)]
      exact get?_insert_of_ne members entry.2 (fresh entry List.mem_cons_self)

/-- A new name goes to the end. -/
lemma insert_of_not_mem (fresh : name ∉ members.keys) :
    members.insert name value = members ++ [(name, value)] := by
  induction members with
  | nil => rfl
  | cons entry rest ih =>
      rw [keys_cons, List.mem_cons, not_or] at fresh
      obtain ⟨differs, fresh'⟩ := fresh
      rw [insert, if_neg (Ne.symm differs), ih fresh']
      rfl

/-- Setting new names appends them. -/
lemma foldl_insert_of_distinct {further : List (String × α)}
    (distinct : Distinct (members ++ further)) :
    further.foldl (fun members entry => insert members entry.1 entry.2) members =
      members ++ further := by
  induction further generalizing members with
  | nil => simp
  | cons entry rest ih =>
      have fresh : entry.1 ∉ members.keys := by
        intro mem
        have apart : (members.keys ++ keys (entry :: rest)).Nodup := by
          simpa [Distinct, keys] using distinct
        exact (List.nodup_append.mp apart).2.2 _ mem _ List.mem_cons_self rfl
      rw [List.foldl_cons, insert_of_not_mem fresh, ih (by simpa using distinct)]
      simp

/-- Setting a member twice sets it to the later value. -/
lemma insert_insert_self (value' : α) :
    (members.insert name value).insert name value' = members.insert name value' := by
  induction members with
  | nil => simp [insert]
  | cons entry rest ih =>
      by_cases same : entry.1 = name
      · simp [insert, same]
      · simp [insert, same, ih]

/-- A member that has its place can be set before or after another one. -/
lemma insert_comm_of_mem {value' : α} (present : name ∈ members.keys) (differs : name ≠ other) :
    (members.insert other value').insert name value =
      (members.insert name value).insert other value' := by
  induction members with
  | nil => cases present
  | cons entry rest ih =>
      by_cases here : entry.1 = name
      · have elsewhere : entry.1 ≠ other := here ▸ differs
        simp [insert, here, differs]
      · have later : name ∈ keys rest := (List.mem_cons.mp present).resolve_left (Ne.symm here)
        by_cases there : entry.1 = other
        · simp [insert, there, Ne.symm differs]
        · simp [insert, here, there, ih later]

/-- A member that has its place can be set before or after others. -/
lemma insert_foldl_insert {further : List (String × α)} (present : name ∈ members.keys)
    (fresh : ∀ entry ∈ further, entry.1 ≠ name) :
    (further.foldl (fun members entry => insert members entry.1 entry.2) members).insert name value =
      further.foldl (fun members entry => insert members entry.1 entry.2)
        (members.insert name value) := by
  induction further generalizing members with
  | nil => rfl
  | cons entry rest ih =>
      have differs : name ≠ entry.1 := Ne.symm (fresh entry List.mem_cons_self)
      rw [List.foldl_cons, List.foldl_cons,
        ih (mem_keys_insert.mpr (.inr present)) fun other mem =>
          fresh other (List.mem_cons_of_mem _ mem),
        insert_comm_of_mem present differs]

/-- Setting members, one of them to another value, is setting them and then this one. -/
lemma foldl_insert_insert {further : Members α} (distinct : further.Distinct) :
    (further.insert name value).foldl (fun members entry => insert members entry.1 entry.2) members =
      (further.foldl (fun members entry => insert members entry.1 entry.2) members).insert
        name value := by
  induction further generalizing members with
  | nil => rfl
  | cons entry rest ih =>
      obtain ⟨fresh, distinct'⟩ := List.nodup_cons.mp distinct
      by_cases same : entry.1 = name
      · have fresh' : ∀ other ∈ rest, other.1 ≠ name := by
          rintro other mem rfl
          exact fresh (same ▸ List.mem_map_of_mem mem)
        rw [insert, if_pos same, List.foldl_cons, List.foldl_cons, same,
          insert_foldl_insert (mem_keys_insert.mpr (.inl rfl)) fresh', insert_insert_self]
      · rw [insert, if_neg same, List.foldl_cons, List.foldl_cons, ih distinct']

/-- A list of distinct names is what is made of it. -/
lemma ofList_of_distinct (distinct : members.Distinct) : ofList members = members :=
  foldl_insert_of_distinct distinct

lemma get?_erase_self : (members.erase name).get? name = none := by
  rw [get?_eq_none_iff, keys, List.mem_map]
  rintro ⟨entry, mem, named⟩
  have kept := (List.mem_filter.mp mem).2
  simp [named] at kept

lemma get?_erase_of_ne (h : name ≠ other) :
    (members.erase name).get? other = members.get? other := by
  induction members with
  | nil => rfl
  | cons entry rest ih =>
      have unfolded : erase (entry :: rest) name =
          if entry.1 = name then erase rest name else entry :: erase rest name := by
        by_cases same : entry.1 = name
        · simp [erase, same]
        · simp [erase, same]
      rw [unfolded]
      split
      · rename_i same
        rw [ih, get?_cons_of_ne (same ▸ h)]
      · by_cases found : entry.1 = other
        · simp [get?, found]
        · rw [get?_cons_of_ne found, get?_cons_of_ne found, ih]

/-- A member that is set to the value it has stays as it is. -/
lemma insert_of_get? (found : members.get? name = some value) :
    members.insert name value = members := by
  induction members with
  | nil => cases found
  | cons entry rest ih =>
      obtain ⟨key, old⟩ := entry
      rw [get?] at found
      rw [insert]
      split
      · rename_i here
        rw [if_pos here, Option.some.injEq] at found
        rw [here, found]
      · rename_i elsewhere
        rw [if_neg elsewhere] at found
        rw [ih found]

/-- A member that is not there is removed already. -/
lemma erase_of_get? (absent : members.get? name = none) : members.erase name = members := by
  refine List.filter_eq_self.mpr fun entry mem => ?_
  have unnamed := (get?_eq_none_iff members name).mp absent
  have differs : entry.1 ≠ name := fun same => unnamed (same ▸ List.mem_map_of_mem mem)
  simp [differs]

lemma keys_erase : (members.erase name).keys = members.keys.filter (· != name) := by
  simp [keys, erase, List.filter_map, Function.comp_def]

lemma keys_erase_subset : (members.erase name).keys ⊆ members.keys :=
  (List.filter_sublist.map Prod.fst).subset

lemma distinct_erase (distinct : members.Distinct) : (members.erase name).Distinct :=
  distinct.sublist (List.filter_sublist.map Prod.fst)

/-- Sets a member to what is found for it, or removes it if nothing is. -/
def assign (members : Members α) (name : String) : Option α → Members α
  | some value => members.insert name value
  | none => members.erase name

lemma get?_assign_self (found : Option α) : (members.assign name found).get? name = found := by
  cases found with
  | none => exact get?_erase_self
  | some value => exact get?_insert_self members name value

lemma get?_assign_of_ne (found : Option α) (h : name ≠ other) :
    (members.assign name found).get? other = members.get? other := by
  cases found with
  | none => exact get?_erase_of_ne h
  | some value => exact get?_insert_of_ne members value h

/-- A member that is assigned what it is stays as it is. -/
lemma assign_get? (members : Members α) (name : String) :
    members.assign name (members.get? name) = members := by
  cases found : members.get? name with
  | none => exact erase_of_get? found
  | some value => exact insert_of_get? found

/-- Assigning a name leaves the others where they are; a name that is new goes to the end. -/
lemma filter_keys_assign {p : String → Bool} {found : Option α} (kept : p name = found.isSome) :
    (members.assign name found).keys.filter p =
      members.keys.filter p ++ [name].filter fun name => p name && !members.has name := by
  cases found with
  | none =>
      have dropped : ∀ key ∈ members.keys, (p key && key != name) = p key := by
        intro key _
        by_cases same : key = name
        · simp [same, kept]
        · simp [same]
      rw [assign, keys_erase, List.filter_filter, List.filter_congr dropped]
      simp [kept]
  | some value =>
      rw [assign, keys_insert]
      by_cases present : name ∈ members.keys
      · simp [present, has_iff.mpr present]
      · have new : members.has name = false := Bool.eq_false_iff.mpr (mt has_iff.mp present)
        simp [present, new, kept]

@[simp] lemma keys_mapValues (f : α → β) : (members.mapValues f).keys = members.keys := by
  simp [keys, mapValues]

lemma mem_mapValues {f : α → β} (mem : (name, value) ∈ members) :
    (name, f value) ∈ members.mapValues f :=
  List.mem_map_of_mem mem

/-! ### Sorted lists -/

/-- The names are in order, each once. -/
def Sorted (members : Members α) : Prop :=
  members.keys.Pairwise (· < ·)

lemma mem_insertSorted {entry : String × α} (mem : entry ∈ members.insertSorted name value) :
    entry = (name, value) ∨ entry ∈ members := by
  refine eq_or_mem_of_puts (insertSorted · name value) rfl ?_ mem
  rintro ⟨key, old⟩ rest
  dsimp only [insertSorted]
  split
  · exact .inl rfl
  · split
    · exact .inr (.inl rfl)
    · exact .inr (.inr rfl)

lemma Sorted.insertSorted (sorted : members.Sorted) : (members.insertSorted name value).Sorted := by
  induction members with
  | nil => exact List.pairwise_singleton _ name
  | cons head rest ih =>
      obtain ⟨key, old⟩ := head
      obtain ⟨first, sorted'⟩ := List.pairwise_cons.mp sorted
      rw [Members.insertSorted]
      split
      · rename_i same
        exact same ▸ sorted
      · split
        · rename_i before
          refine List.pairwise_cons.mpr ⟨fun other mem => ?_, sorted⟩
          rcases List.mem_cons.mp mem with rfl | mem
          · exact before
          · exact before.trans (first other mem)
        · rename_i differs not_before
          refine List.pairwise_cons.mpr ⟨fun other mem => ?_, ih sorted'⟩
          obtain ⟨entry, entry_mem, rfl⟩ := List.mem_map.mp mem
          rcases mem_insertSorted entry_mem with rfl | entry_mem
          · exact lt_of_le_of_ne (not_lt.mp not_before) differs
          · exact first entry.1 (List.mem_map_of_mem entry_mem)

/-- A name that comes after all others goes to the end. -/
lemma insertSorted_of_forall_lt (after : ∀ key ∈ members.keys, key < name) :
    members.insertSorted name value = members ++ [(name, value)] := by
  induction members with
  | nil => rfl
  | cons head rest ih =>
      have before := after head.1 List.mem_cons_self
      rw [insertSorted, if_neg before.ne, if_neg before.not_gt,
        ih fun key mem => after key (List.mem_cons_of_mem _ mem)]
      rfl

/-- Sorted members are set as they stand, if each round sets the member it is given. -/
lemma foldlM_of_sorted {ε : Type} {further : Members α} {g : α → β}
    {round : Members α → String × β → Except ε (Members α)} (sorted : Sorted (members ++ further))
    (sets : ∀ entry ∈ further, ∀ members, round members (entry.1, g entry.2) =
      .ok (members.insertSorted entry.1 entry.2)) :
    (further.mapValues g).foldlM round members = .ok (members ++ further) := by
  induction further generalizing members with
  | nil =>
      rw [List.append_nil]
      rfl
  | cons entry rest ih =>
      have after : ∀ key ∈ members.keys, key < entry.1 := by
        intro key mem
        rw [Sorted, keys, List.map_append] at sorted
        exact (List.pairwise_append.mp sorted).2.2 key mem entry.1 List.mem_cons_self
      have sorted' : Sorted (members ++ [entry] ++ rest) := by
        rwa [List.append_assoc]
      have later := ih sorted' fun other mem => sets other (List.mem_cons_of_mem entry mem)
      rw [List.append_assoc] at later
      show (round members (entry.1, g entry.2) >>= (mapValues g rest).foldlM round) = _
      rw [sets entry List.mem_cons_self, insertSorted_of_forall_lt after]
      exact later

end Federation.Members
