import Federation.Failure
import Mathlib.Tactic.Lemma

/-!
# Sequences of checks

What the success of a sequence of checks says about each of them.  Every reader and every judge of
the library is such a sequence, so the proofs about them start here.

**Inversion.**  `Except.bind_eq_ok_iff` splits a sequence at its first step, `ExceptT.bind_eq_ok_iff` one
whose steps also change a state.  `List.mapM_eq_ok` and `List.exists_mapM_eq_ok` go the other way for
lists, `List.exists_of_mapM_eq_ok` and `List.mem_of_mapM_eq_ok` go from results to items and back, and
`List.forM_eq_ok_iff` is about a check of every item.

**Folds.**  `List.foldlM_induction` carries an invariant through a fold that succeeds, and
`List.foldlM_of_mem` finds the round in which an item was treated: what that round establishes still
holds at the end if no later round can undo it.  `List.foldlM_flatMap_of_view` looks at a fold through a
view on which each round is a sequence of smaller steps.
-/

namespace Federation

variable {ε ε' α β γ : Type}

/-! ### Inversion -/

lemma Except.bind_eq_ok_iff {x : Except ε α} {f : α → Except ε β} {b : β} :
    (x >>= f) = .ok b ↔ ∃ a, x = .ok a ∧ f a = .ok b := by
  cases x with
  | error e => simp [bind, Except.bind]
  | ok a => simp [bind, Except.bind]

lemma Except.pure_eq_ok_iff {a b : α} : (pure a : Except ε α) = .ok b ↔ a = b := by
  simp [pure, Except.pure]

lemma Except.map_eq_ok_iff {x : Except ε α} {f : α → β} {b : β} :
    x.map f = .ok b ↔ ∃ a, x = .ok a ∧ f a = b := by
  cases x with
  | error e => simp [Except.map]
  | ok a => simp [Except.map]

lemma Except.map_bind {x : Except ε α} {f : α → Except ε β} {g : β → γ} :
    (x >>= f).map g = x >>= fun a => (f a).map g := by
  cases x with
  | error e => rfl
  | ok a => rfl

/-- Results that are alike for what is done with them lead to the same. -/
lemma Except.bind_congr_of_map {x x' : Except ε α} {g : α → β}
    {f f' : α → Except ε γ} (same : x.map g = x'.map g)
    (alike : ∀ a a', g a = g a' → f a = f' a') : x >>= f = x' >>= f' := by
  cases x with
  | error e =>
      cases x' with
      | error e' => exact congrArg Except.error (Except.error.inj same)
      | ok a' => cases same
  | ok a =>
      cases x' with
      | error e' => cases same
      | ok a' => exact alike a a' (Except.ok.inj same)

/-- Other words for a failure do not touch success. -/
lemma Except.mapError_eq_ok_iff {x : Except ε α} {f : ε → ε'} {a : α} :
    x.mapError f = .ok a ↔ x = .ok a := by
  cases x with
  | error e =>
      constructor
      · intro h
        cases h
      · intro h
        cases h
  | ok b =>
      constructor
      · intro h
        cases h
        rfl
      · intro h
        cases h
        rfl

/-- A step that may fail and changes a state goes on from where the one before it has ended. -/
lemma ExceptT.bind_eq_ok_iff {S : Type} {x : ExceptT ε (StateM S) α} {f : α → ExceptT ε (StateM S) β}
    {s s' : S} {b : β} :
    (x >>= f) s = (.ok b, s') ↔ ∃ a mid, x s = (.ok a, mid) ∧ f a mid = (.ok b, s') := by
  show ExceptT.bindCont f (x s).1 (x s).2 = _ ↔ _
  cases x s with
  | mk answer mid =>
      cases answer with
      | error e =>
          constructor
          · intro h
            cases h
          · rintro ⟨_, _, h, _⟩
            cases h
      | ok a =>
          constructor
          · intro h
            exact ⟨a, mid, rfl, h⟩
          · rintro ⟨_, _, h, later⟩
            cases h
            exact later

lemma ExceptT.pure_eq_ok_iff {S : Type} {a b : α} {s s' : S} :
    (pure a : ExceptT ε (StateM S) α) s = (.ok b, s') ↔ a = b ∧ s = s' := by
  constructor
  · intro h
    cases h
    exact ⟨rfl, rfl⟩
  · rintro ⟨rfl, rfl⟩
    rfl

lemma Except.toOption_eq_some_iff {x : Except ε α} {a : α} :
    x.toOption = some a ↔ x = .ok a := by
  cases x with
  | error e => simp [Except.toOption]
  | ok a => simp [Except.toOption]

/-- A list is read item by item, if every item can be read. -/
lemma List.mapM_eq_ok {f : α → Except ε β} {g : α → β} {items : List α}
    (h : ∀ item ∈ items, f item = .ok (g item)) : items.mapM f = .ok (items.map g) := by
  induction items with
  | nil => rfl
  | cons item rest ih =>
      rw [List.mapM_cons, h item List.mem_cons_self, ih fun i hi => h i (List.mem_cons_of_mem item hi)]
      rfl

/-- A list whose items can be read is read, and what is known of each item that was read is known of
the whole. -/
lemma List.exists_mapM_eq_ok {f : α → Except ε β} {items : List α} {seen : β → γ} {known : α → γ}
    (h : ∀ item ∈ items, ∃ result, f item = .ok result ∧ seen result = known item) :
    ∃ results, items.mapM f = .ok results ∧ results.map seen = items.map known := by
  induction items with
  | nil => exact ⟨[], rfl, rfl⟩
  | cons item rest ih =>
      obtain ⟨result, read, here⟩ := h item List.mem_cons_self
      obtain ⟨results, read_rest, there⟩ := ih fun i mem => h i (List.mem_cons_of_mem item mem)
      refine ⟨result :: results, ?_, by rw [List.map_cons, List.map_cons, here, there]⟩
      rw [List.mapM_cons, read, read_rest]
      rfl

/-- What is read from a list is read from one of its items. -/
lemma List.exists_of_mapM_eq_ok {f : α → Except ε β} {items : List α} {results : List β} {result : β}
    (h : items.mapM f = .ok results) (mem : result ∈ results) : ∃ item ∈ items, f item = .ok result := by
  induction items generalizing results with
  | nil =>
      cases h
      cases mem
  | cons item rest ih =>
      rw [List.mapM_cons, Except.bind_eq_ok_iff] at h
      obtain ⟨first, read, h⟩ := h
      obtain ⟨others, read_rest, h⟩ := Except.bind_eq_ok_iff.mp h
      cases h
      rcases List.mem_cons.mp mem with rfl | mem
      · exact ⟨item, List.mem_cons_self, read⟩
      · obtain ⟨other, other_mem, other_read⟩ := ih read_rest mem
        exact ⟨other, List.mem_cons_of_mem item other_mem, other_read⟩

/-- The same of readings that may give nothing. -/
lemma List.exists_of_mapM_eq_some {f : α → Option β} {items : List α} {results : List β} {result : β}
    (h : items.mapM f = some results) (mem : result ∈ results) : ∃ item ∈ items, f item = some result := by
  induction items generalizing results with
  | nil =>
      cases h
      cases mem
  | cons item rest ih =>
      rw [List.mapM_cons] at h
      simp only [Option.bind_eq_bind, Option.bind_eq_some_iff] at h
      obtain ⟨first, here, others, later, same⟩ := h
      cases same
      rcases List.mem_cons.mp mem with rfl | mem
      · exact ⟨item, List.mem_cons_self, here⟩
      · obtain ⟨found, mem, read⟩ := ih later mem
        exact ⟨found, List.mem_cons_of_mem _ mem, read⟩

lemma List.length_of_mapM_eq_some {f : α → Option β} {items : List α} {results : List β}
    (h : items.mapM f = some results) : results.length = items.length := by
  induction items generalizing results with
  | nil =>
      cases h
      rfl
  | cons item rest ih =>
      rw [List.mapM_cons] at h
      simp only [Option.bind_eq_bind, Option.bind_eq_some_iff] at h
      obtain ⟨first, -, others, later, same⟩ := h
      cases same
      rw [List.length_cons, List.length_cons, ih later]

/-- What is read from an item is among what is read from the list. -/
lemma List.mem_of_mapM_eq_ok {f : α → Except ε β} {items : List α} {results : List β} {item : α}
    {result : β} (h : items.mapM f = .ok results) (mem : item ∈ items) (read : f item = .ok result) :
    result ∈ results := by
  induction items generalizing results with
  | nil => cases mem
  | cons first rest ih =>
      rw [List.mapM_cons, Except.bind_eq_ok_iff] at h
      obtain ⟨first_result, read_first, h⟩ := h
      obtain ⟨others, read_rest, h⟩ := Except.bind_eq_ok_iff.mp h
      cases h
      rcases List.mem_cons.mp mem with rfl | mem
      · rw [read] at read_first
        cases read_first
        exact List.mem_cons_self
      · exact List.mem_cons_of_mem first_result (ih read_rest mem)

/-- A list passes a check if every item does. -/
lemma List.forM_eq_ok_iff {f : α → Except ε Unit} {items : List α} :
    items.forM f = .ok () ↔ ∀ item ∈ items, f item = .ok () := by
  induction items with
  | nil => simp [List.forM, pure, Except.pure]
  | cons item rest ih =>
      rw [List.forall_mem_cons, ← ih]
      show (f item >>= fun _ => rest.forM f) = .ok () ↔ _
      rw [Except.bind_eq_ok_iff]
      constructor
      · rintro ⟨⟨⟩, first, later⟩
        exact ⟨first, later⟩
      · rintro ⟨first, later⟩
        exact ⟨(), first, later⟩

/-- A list that does not pass a check fails it at one of its items. -/
lemma List.exists_of_forM_eq_error {f : α → Except ε Unit} {items : List α} {e : ε}
    (h : items.forM f = .error e) : ∃ item ∈ items, f item = .error e := by
  induction items with
  | nil => cases h
  | cons item rest ih =>
      change (f item >>= fun _ => rest.forM f) = .error e at h
      cases checked : f item with
      | error failure =>
          rw [checked] at h
          cases h
          exact ⟨item, List.mem_cons_self, checked⟩
      | ok _ =>
          rw [checked] at h
          obtain ⟨other, mem, failed⟩ := ih h
          exact ⟨other, List.mem_cons_of_mem item mem, failed⟩

/-! ### Folds -/

/-- What holds before a fold and survives every round holds after it. -/
lemma List.foldlM_induction {f : β → α → Except ε β} {P : β → Prop} {items : List α}
    {init final : β} (h : items.foldlM f init = .ok final) (base : P init)
    (round : ∀ item ∈ items, ∀ before after, P before → f before item = .ok after → P after) :
    P final := by
  induction items generalizing init with
  | nil =>
      rw [List.foldlM_nil, Except.pure_eq_ok_iff] at h
      exact h ▸ base
  | cons item rest ih =>
      rw [List.foldlM_cons, Except.bind_eq_ok_iff] at h
      obtain ⟨next, first, later⟩ := h
      exact ih later (round item List.mem_cons_self init next base first)
        fun i hi => round i (List.mem_cons_of_mem item hi)

/-- What the round of one item establishes, and no round undoes, holds after the fold. -/
lemma List.foldlM_of_mem {f : β → α → Except ε β} {I Q : β → Prop} {items : List α}
    {init final : β} {item : α} (h : items.foldlM f init = .ok final) (mem : item ∈ items)
    (base : I init)
    (keeps : ∀ i ∈ items, ∀ before after, I before → f before i = .ok after → I after)
    (establishes : ∀ before after, I before → f before item = .ok after → Q after)
    (preserves : ∀ i ∈ items, ∀ before after, I before → Q before → f before i = .ok after →
      Q after) :
    Q final := by
  induction items generalizing init with
  | nil => cases mem
  | cons first rest ih =>
      rw [List.foldlM_cons, Except.bind_eq_ok_iff] at h
      obtain ⟨next, now, later⟩ := h
      have invariant := keeps first List.mem_cons_self init next base now
      have keeps' := fun i hi => keeps i (List.mem_cons_of_mem first hi)
      have preserves' := fun i hi => preserves i (List.mem_cons_of_mem first hi)
      rcases List.mem_cons.mp mem with rfl | mem
      · have done := establishes init next base now
        exact (List.foldlM_induction (P := fun b => I b ∧ Q b) later ⟨invariant, done⟩
          fun i hi before after both round =>
            ⟨keeps' i hi before after both.1 round,
              preserves' i hi before after both.1 both.2 round⟩).2
      · exact ih later mem invariant keeps' preserves'

/-- If every round acts on a view like a sequence of steps, the fold acts on it like all of these steps
in a row. -/
lemma List.foldlM_flatMap_of_view {γ ι : Type} {f : β → α → Except ε β} {g : γ → ι → Except ε' γ}
    {view : β → γ} {steps : α → List ι} {items : List α} {init final : β}
    (h : items.foldlM f init = .ok final)
    (round : ∀ item before after, f before item = .ok after →
      (steps item).foldlM g (view before) = .ok (view after)) :
    (items.flatMap steps).foldlM g (view init) = .ok (view final) := by
  induction items generalizing init with
  | nil =>
      rw [List.foldlM_nil, Except.pure_eq_ok_iff] at h
      subst h
      rfl
  | cons item rest ih =>
      rw [List.foldlM_cons, Except.bind_eq_ok_iff] at h
      obtain ⟨next, first, later⟩ := h
      rw [List.flatMap_cons, List.foldlM_append]
      exact Except.bind_eq_ok_iff.mpr ⟨view next, round item init next first, ih later⟩

end Federation
