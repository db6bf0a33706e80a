import Federation.Proofs.Resolution.Conclusion

/-!
# Resolutions seen through a view

Two resolvers may keep different states for their fetchers and still do the same.  If the second one
gives the answers of the first and its state is a view of the first one's, then its resolutions are the
first one's, seen through that view.

**Good states.**  The answers need only be the same as long as the first resolver stays in good states,
and a good state has been reached through good states only.  So whether a resolution can be seen through
the view is decided by the state it ends in.

**From requests to resolutions.**  `Resolver.Mirrors` is about one request, `Query.Mirrors` carries it
through everything the search does with a hint, `Search.mirrors_run` through the search and
`Resolver.Mirrors.resolve` through the resolution.
-/

namespace Federation

variable {σ τ : Type}

/-! ### Views -/

/-- What is known, with another state of the fetcher. -/
def Knowledge.seen (view : σ → τ) (known : Knowledge σ) : Knowledge τ :=
  { known with source := view known.source }

/-- A search with another state of the fetcher. -/
def Search.seen {room : Nat} (view : σ → τ) (s : Search σ room) : Search τ room :=
  { s with knowledge := s.knowledge.seen view }

/-- An outcome with another state of the fetcher. -/
def Outcome.seen (view : σ → τ) (outcome : Outcome σ) : Outcome τ :=
  { outcome with source := view outcome.source }

/-- The second resolver answers every request as the first one does if that leads to a good state, and
keeps a view of its state. -/
structure Resolver.Mirrors (view : σ → τ) (good : σ → Prop) (r : Resolver σ) (r' : Resolver τ) :
    Prop where
  verifier_eq : r'.verifier = r.verifier
  earlier : ∀ issuer subject source, good (r.fetcher issuer subject source).2 → good source
  fetcher_eq : ∀ issuer subject source, good (r.fetcher issuer subject source).2 →
    r'.fetcher issuer subject (view source) =
      ((r.fetcher issuer subject source).1, view (r.fetcher issuer subject source).2)

/-! ### Queries -/

/-- The second query is the first one seen through the view, if that ends in a good state. -/
def Query.Mirrors {α : Type} (view : σ → τ) (good : σ → Prop) (q : Query σ α) (q' : Query τ α) :
    Prop :=
  ∀ known, good (q known).2.source →
    good known.source ∧ q' (known.seen view) = ((q known).1, (q known).2.seen view)

namespace Query.Mirrors

variable {view : σ → τ} {good : σ → Prop} {α β : Type}

lemma judge (verdict : Except Failure α) :
    Mirrors view good (Resolver.judge verdict) (Resolver.judge verdict) :=
  fun _ ends => ⟨ends, rfl⟩

lemma pure (a : α) :
    Mirrors view good (Pure.pure a : Query σ α) (Pure.pure a : Query τ α) :=
  fun _ ends => ⟨ends, rfl⟩

/-- If both queries end in a good state, the first has done so before. -/
lemma bind {x : Query σ α} {x' : Query τ α} {f : α → Query σ β} {f' : α → Query τ β}
    (first : Mirrors view good x x') (second : ∀ a, Mirrors view good (f a) (f' a)) :
    Mirrors view good (x >>= f) (x' >>= f') := by
  intro known ends
  rw [bind_apply] at ends ⊢
  rw [bind_apply]
  cases answered : x known with
  | mk answer mid =>
      rw [answered] at ends
      cases answer with
      | error failure =>
          obtain ⟨begins, same⟩ := first known (by rw [answered]; exact ends)
          refine ⟨begins, ?_⟩
          rw [same, answered]
          rfl
      | ok a =>
          obtain ⟨between, same⟩ := second a mid ends
          obtain ⟨begins, same'⟩ := first known (by rw [answered]; exact between)
          refine ⟨begins, ?_⟩
          rw [same', answered]
          exact same

end Query.Mirrors

namespace Resolver.Mirrors

variable {view : σ → τ} {good : σ → Prop} {r : Resolver σ} {r' : Resolver τ} {goal : Goal}

lemma fetch (mirrors : r.Mirrors view good r') (issuer subject : EntityId) :
    Query.Mirrors view good (r.fetch issuer subject) (r'.fetch issuer subject) := by
  intro known ends
  refine ⟨mirrors.earlier issuer subject known.source ends, ?_⟩
  have answered := mirrors.fetcher_eq issuer subject known.source ends
  unfold Resolver.fetch
  rw [show (known.seen view).source = view known.source from rfl, answered]
  rfl

lemma fetchIssued (mirrors : r.Mirrors view good r') (issuer subject : EntityId) (keys : KeySet) :
    Query.Mirrors view good (r.fetchIssued issuer subject keys)
      (r'.fetchIssued issuer subject keys) := by
  refine (mirrors.fetch issuer subject).bind fun raw => ?_
  rw [mirrors.verifier_eq]
  exact .judge _

lemma fetchConfiguration (mirrors : r.Mirrors view good r') (entity : EntityId) :
    Query.Mirrors view good (r.fetchConfiguration entity) (r'.fetchConfiguration entity) := by
  refine (mirrors.fetch entity entity).bind fun raw => ?_
  rw [mirrors.verifier_eq]
  exact .judge _

/-- Both resolvers remember the same configuration of the anchor. -/
lemma anchorConfiguration (mirrors : r.Mirrors view good r') :
    Query.Mirrors view good (r.anchorConfiguration goal) (r'.anchorConfiguration goal) := by
  intro known ends
  unfold Resolver.anchorConfiguration at ends ⊢
  rw [show (known.seen view).anchorConfiguration = known.anchorConfiguration from rfl]
  cases remembered : known.anchorConfiguration with
  | some configuration =>
      rw [remembered] at ends
      exact ⟨ends, rfl⟩
  | none =>
      rw [remembered] at ends
      have fetched := mirrors.fetchIssued goal.anchor goal.anchor goal.anchorKeys
      refine fetched.bind (fun configuration => Query.Mirrors.bind ?_ fun _ => .pure _) known ends
      exact fun _ ends => ⟨ends, rfl⟩

lemma learn (mirrors : r.Mirrors view good r') (hint : EntityId) :
    Query.Mirrors view good (r.learn goal hint) (r'.learn goal hint) := by
  unfold Resolver.learn
  split
  · exact mirrors.anchorConfiguration.bind fun _ => .pure _
  · exact (mirrors.fetchConfiguration hint).bind fun _ => .pure _

lemma examine (mirrors : r.Mirrors view good r') (top : Frame) (hint : EntityId) :
    Query.Mirrors view good (r.examine goal top hint) (r'.examine goal top hint) := by
  refine (mirrors.learn hint).bind fun ⟨configuration, keys⟩ => ?_
  refine (Query.Mirrors.judge _).bind fun _ => (Query.Mirrors.judge _).bind fun _ => ?_
  refine (mirrors.fetchIssued hint top.entity keys).bind fun vouching => ?_
  refine (Query.Mirrors.judge _).bind fun allowance => ?_
  split
  · exact .pure _
  · exact (Query.Mirrors.judge _).bind fun _ => .pure _

/-- Both resolvers treat a hint alike. -/
lemma attempt (mirrors : r.Mirrors view good r') (top : Frame) (lower : List Frame)
    (hint : EntityId) :
    Query.Mirrors view good (Search.attempt r goal top lower hint)
      (Search.attempt r' goal top lower hint) := by
  unfold Search.attempt
  split
  · exact .judge _
  · split
    · exact mirrors.examine top hint
    · exact .judge _

/-! ### The search -/

/-- A step seen through the view is a step. -/
theorem step (mirrors : r.Mirrors view good r') {s next : Search σ goal.room}
    (stepped : Search.Stepped r goal s (.onward next)) (ends : good next.knowledge.source) :
    good s.knowledge.source ∧ Search.Stepped r' goal (s.seen view) (.onward (next.seen view)) := by
  have attempt : ∀ {top lower hint answer},
      Search.attempt r goal top lower hint s.knowledge = (answer, next.knowledge) →
      good s.knowledge.source ∧ Search.attempt r' goal top lower hint (s.seen view).knowledge =
        (answer, (next.seen view).knowledge) := by
    intro top lower hint answer attempted
    obtain ⟨begins, same⟩ := mirrors.attempt top lower hint s.knowledge (by rwa [attempted])
    rw [attempted] at same
    exact ⟨begins, same⟩
  cases stepped with
  | exhausted frames none_left next_frames next_knowledge next_deepest next_events =>
      refine ⟨next_knowledge ▸ ends, .exhausted frames none_left next_frames ?_ next_deepest
        next_events⟩
      rw [Search.seen, Search.seen, next_knowledge]
  | refused frames some_left attempted next_frames next_deepest next_events =>
      obtain ⟨begins, attempted⟩ := attempt attempted
      exact ⟨begins, .refused frames some_left attempted next_frames next_deepest next_events⟩
  | pushed frames some_left attempted next_frames next_deepest next_events =>
      obtain ⟨begins, attempted⟩ := attempt attempted
      exact ⟨begins, .pushed frames some_left attempted next_frames next_deepest next_events⟩

/-- The step that ends a search, seen through the view, ends the search that is seen. -/
theorem lastStep (mirrors : r.Mirrors view good r') {s final : Search σ goal.room}
    {result : Except Failure (List Statement)}
    (stepped : Search.Stepped r goal s (.done result final)) (ends : good final.knowledge.source) :
    good s.knowledge.source ∧
      Search.Stepped r' goal (s.seen view) (.done result (final.seen view)) := by
  cases stepped with
  | empty frames => exact ⟨ends, .empty frames⟩
  | @arrived top lower hint untried configuration vouching _ frames some_left attempted final_frames
      final_deepest final_events =>
      obtain ⟨begins, same⟩ := mirrors.attempt top lower hint s.knowledge (by rwa [attempted])
      rw [attempted] at same
      exact ⟨begins, .arrived frames some_left same final_frames final_deepest final_events⟩

/-- **A search seen through the view is a search.** -/
theorem run (mirrors : r.Mirrors view good r') (s : Search σ goal.room)
    (ends : good (Search.run r goal s).2.knowledge.source) :
    good s.knowledge.source ∧ Search.run r' goal (s.seen view) =
      ((Search.run r goal s).1, (Search.run r goal s).2.seen view) := by
  revert ends
  refine Search.run_induction (P := fun s outcome => good outcome.2.knowledge.source →
    good s.knowledge.source ∧
      Search.run r' goal (s.seen view) = (outcome.1, outcome.2.seen view)) ?done ?onward s
  case done =>
    intro s result final stepped ends
    obtain ⟨begins, stepped'⟩ := mirrors.lastStep stepped ends
    exact ⟨begins, Search.run_of_done stepped'.eq_step⟩
  case onward =>
    intro s next outcome stepped ih ends
    obtain ⟨between, same⟩ := ih ends
    obtain ⟨begins, stepped'⟩ := mirrors.step stepped between
    exact ⟨begins, (Search.run_of_onward stepped'.eq_step).trans same⟩

end Resolver.Mirrors

/-! ### The resolution -/

namespace Resolver

/-- A leaf from which a search begins: a current configuration of an entity other than the anchor. -/
def Searches (goal : Goal) : Prop :=
  goal.leaf.isSelfIssued = true ∧ goal.leaf.Current goal.now ∧ goal.leaf.subject ≠ goal.anchor

/-- Without a search the fetcher is not asked, and every resolver gives the same result. -/
lemma resolve_of_not_searches {goal : Goal} (idle : ¬ Searches goal) (r : Resolver σ)
    (r' : Resolver τ) (source : σ) (source' : τ) :
    (r.resolve goal source).source = source ∧
      r'.resolve goal source' = { r.resolve goal source with source := source' } := by
  unfold resolve
  dsimp only
  split
  · exact ⟨rfl, rfl⟩
  · rename_i self_issued
    split
    · exact ⟨rfl, rfl⟩
    · rename_i checked
      obtain ⟨⟨⟩, valid, required⟩ := Except.bind_eq_ok_iff.mp checked
      split
      · split
        · exact ⟨rfl, rfl⟩
        · exact ⟨rfl, rfl⟩
      · rename_i other
        exact absurd ⟨by simpa using self_issued, ⟨valid, required⟩, other⟩ idle

lemma source_afterSearch {goal : Goal}
    (searched : Except Failure (List Statement) × Search σ goal.room) :
    (afterSearch goal searched).source = searched.2.knowledge.source := by
  obtain ⟨found, final⟩ := searched
  cases found with
  | ok path => rfl
  | error failure => rfl

lemma afterSearch_seen {goal : Goal} (view : σ → τ) (found : Except Failure (List Statement))
    (final : Search σ goal.room) :
    afterSearch goal (found, final.seen view) = (afterSearch goal (found, final)).seen view := by
  cases found with
  | ok path => rfl
  | error failure => rfl

variable {view : σ → τ} {good : σ → Prop} {r : Resolver σ} {r' : Resolver τ}

/-- **A resolution seen through the view is a resolution.** -/
theorem Mirrors.resolve (mirrors : r.Mirrors view good r') (goal : Goal) (source : σ)
    (ends : good (r.resolve goal source).source) :
    r'.resolve goal (view source) = (r.resolve goal source).seen view := by
  by_cases searches : Searches goal
  · obtain ⟨self_issued, current, other⟩ := searches
    rw [resolve_eq_afterSearch self_issued current other] at ends ⊢
    rw [resolve_eq_afterSearch self_issued current other]
    rw [source_afterSearch] at ends
    have same : r'.searchFrom goal (view source) =
        ((r.searchFrom goal source).1, (r.searchFrom goal source).2.seen view) :=
      (mirrors.run (Search.start goal ⟨source, none⟩ [.passed .start .resolving]) ends).2
    rw [same, afterSearch_seen]
  · obtain ⟨unasked, same⟩ := resolve_of_not_searches searches r r' source (view source)
    rw [same, Outcome.seen, unasked]

end Resolver

end Federation
