import Federation.Proofs.Resolution.Steps

/-!
# Verdicts that do not depend on the past

A fetcher may change its state with every request.  If its answers do not depend on that state, then
neither does what becomes of a hint: whatever was tried before, the same hint of the same entity meets
the same fate.

**Settled queries.**  A `Query.Settled` query has the same result from all knowledge with a property.
The property that matters is `Resolver.AnchorSettled`: if the configuration of the anchor is
remembered, it is the one that would be fetched.

**Verdicts.**  `Resolver.verdict` is the fate of a hint, looked at for itself.
`Resolver.Steady.examine_eq` says that the search meets no other.
-/

namespace Federation

variable {σ α β : Type}

/-! ### Settled queries -/

/-- The result is the same from all knowledge with a property. -/
def Query.Settled (P : Knowledge σ → Prop) (q : Query σ α) : Prop :=
  ∀ known known', P known → P known' → (q known).1 = (q known').1

namespace Query.Settled

variable {P : Knowledge σ → Prop}

lemma judge (verdict : Except Failure α) : Settled P (Resolver.judge verdict) :=
  fun _ _ _ _ => rfl

lemma pure (a : α) : Settled P (Pure.pure a : Query σ α) :=
  fun _ _ _ _ => rfl

lemma andThen {x : Query σ α} {f : α → Query σ β} (first : Settled P x) (keeps : Keeps P x)
    (second : ∀ a, Settled P (f a)) : Settled P (x >>= f) := by
  intro known known' holds holds'
  have same := first known known' holds holds'
  have kept := keeps known holds
  have kept' := keeps known' holds'
  rw [bind_apply, bind_apply, ← same]
  cases (x known).1 with
  | error failure => rfl
  | ok a => exact second a _ _ kept kept'

end Query.Settled

/-! ### Verdicts -/

/-- The answers of the fetcher do not depend on its state. -/
def Resolver.Steady (r : Resolver σ) : Prop :=
  ∀ issuer subject source source',
    (r.fetcher issuer subject source).1 = (r.fetcher issuer subject source').1

namespace Resolver

variable {r : Resolver σ} {goal : Goal} {source : σ}

/-- If the configuration of the anchor is remembered, it is the one that would be fetched. -/
def AnchorSettled (r : Resolver σ) (goal : Goal) (source : σ) (known : Knowledge σ) : Prop :=
  ∀ s, known.anchorConfiguration = some s →
    (r.fetchIssued goal.anchor goal.anchor goal.anchorKeys ⟨source, none⟩).1 = .ok s

lemma anchorSettled_none (source source' : σ) : r.AnchorSettled goal source ⟨source', none⟩ := by
  intro s holds
  cases holds

lemma Steady.fetch {P : Knowledge σ → Prop} (steady : r.Steady) (issuer subject : EntityId) :
    Query.Settled P (r.fetch issuer subject) := by
  intro known known' _ _
  show (r.fetcher issuer subject known.source).1.mapError Failure.fetch =
    (r.fetcher issuer subject known'.source).1.mapError Failure.fetch
  rw [steady issuer subject known.source known'.source]

variable (goal source)

lemma fetch_keeps (r : Resolver σ) (issuer subject : EntityId) :
    Query.Keeps (r.AnchorSettled goal source) (r.fetch issuer subject) :=
  Query.Keeps.fetch fun _ _ settled => settled

lemma Steady.fetchIssued (steady : r.Steady) (issuer subject : EntityId) (keys : KeySet) :
    Query.Settled (r.AnchorSettled goal source) (r.fetchIssued issuer subject keys) :=
  (steady.fetch issuer subject).andThen (fetch_keeps goal source r issuer subject) fun _ => .judge _

lemma Steady.fetchConfiguration (steady : r.Steady) (entity : EntityId) :
    Query.Settled (r.AnchorSettled goal source) (r.fetchConfiguration entity) :=
  (steady.fetch entity entity).andThen (fetch_keeps goal source r entity entity) fun _ => .judge _

/-- Remembering the anchor's configuration makes no difference to what it is. -/
lemma Steady.anchorConfiguration_eq (steady : r.Steady) {known : Knowledge σ}
    (settled : r.AnchorSettled goal source known) :
    (r.anchorConfiguration goal known).1 =
      (r.fetchIssued goal.anchor goal.anchor goal.anchorKeys ⟨source, none⟩).1 := by
  unfold anchorConfiguration
  split
  · rename_i configuration remembered
    exact (settled configuration remembered).symm
  · have again := steady.fetchIssued goal source goal.anchor goal.anchor goal.anchorKeys known
      ⟨source, none⟩ settled (anchorSettled_none source source)
    rw [← again]
    rw [Query.bind_apply]
    cases (r.fetchIssued goal.anchor goal.anchor goal.anchorKeys known).1 with
    | error failure => rfl
    | ok configuration => rfl

lemma Steady.anchorConfiguration_keeps (steady : r.Steady) :
    Query.Keeps (r.AnchorSettled goal source) (r.anchorConfiguration goal) := by
  intro known settled
  unfold anchorConfiguration
  split
  · exact settled
  · refine Query.Keeps.bind (fetchIssued_keeps (fetch_keeps goal source r) _ _ _) ?_ known settled
    intro configuration known' settled' mid fetched _ s holds
    have again := steady.fetchIssued goal source goal.anchor goal.anchor goal.anchorKeys
      ⟨source, none⟩ known' (anchorSettled_none source source) settled'
    cases holds
    rw [again, fetched]

lemma Steady.learn (steady : r.Steady) (hint : EntityId) :
    Query.Settled (r.AnchorSettled goal source) (r.learn goal hint) := by
  unfold Resolver.learn
  split
  · have settled : Query.Settled (r.AnchorSettled goal source) (r.anchorConfiguration goal) := by
      intro known known' holds holds'
      rw [steady.anchorConfiguration_eq goal source holds,
        steady.anchorConfiguration_eq goal source holds']
    exact settled.andThen (steady.anchorConfiguration_keeps goal source) fun _ => .pure _
  · exact (steady.fetchConfiguration goal source hint).andThen
      (fetchConfiguration_keeps (fetch_keeps goal source r) hint) fun _ => .pure _

/-- Looking at a hint leaves the memory of the anchor as it should be. -/
lemma Steady.anchorSettled_of_examine (steady : r.Steady) (top : Frame) (hint : EntityId) :
    Query.Keeps (r.AnchorSettled goal source) (r.examine goal top hint) :=
  examine_keeps (fetch_keeps goal source r) (steady.anchorConfiguration_keeps goal source) top hint

/-- **A hint meets the same fate whatever was tried before.** -/
theorem Steady.examine (steady : r.Steady) (top : Frame) (hint : EntityId) :
    Query.Settled (r.AnchorSettled goal source) (r.examine goal top hint) := by
  have fetching := fetch_keeps goal source r
  have learning :=
    learn_keeps fetching (steady.anchorConfiguration_keeps goal source) hint
  refine (steady.learn goal source hint).andThen learning ?_
  rintro ⟨configuration, keys⟩
  refine (Query.Settled.judge _).andThen (.judge _) fun _ => ?_
  refine (Query.Settled.judge _).andThen (.judge _) fun _ => ?_
  refine (steady.fetchIssued goal source hint top.entity keys).andThen
    (fetchIssued_keeps fetching hint top.entity keys) fun vouching => ?_
  refine (Query.Settled.judge _).andThen (.judge _) fun allowance => ?_
  split
  · exact .pure _
  · exact (Query.Settled.judge _).andThen (.judge _) fun _ => .pure _

variable {goal source}

/-- The fate of a hint, looked at for itself. -/
def verdict (r : Resolver σ) (goal : Goal) (source : σ) (top : Frame) (hint : EntityId) :
    Except Failure Admission :=
  (r.examine goal top hint ⟨source, none⟩).1

lemma Steady.examine_eq (steady : r.Steady) {known : Knowledge σ}
    (settled : r.AnchorSettled goal source known) (top : Frame) (hint : EntityId) :
    (r.examine goal top hint known).1 = r.verdict goal source top hint :=
  steady.examine goal source top hint known ⟨source, none⟩ settled (anchorSettled_none source source)

end Resolver

end Federation
