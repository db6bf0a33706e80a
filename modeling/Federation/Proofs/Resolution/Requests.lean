import Federation.Proofs.Resolution.Constrained
import Federation.Proofs.Resolution.Mirroring

/-!
# What a resolution asks for

A fetcher may answer each request from the request alone.  Then all that a resolution learns is what it
is told on its requests, and each of these follows a hint of an entity on its path.  Statements it does
not ask for cannot redirect it.

**Requests.**  `Fetcher.asking` keeps all requests in order and does nothing else that
`Fetcher.ofFunction` does not (`Resolver.resolve_ofFunction`).

**Two runs.**  `Resolver.mirrors_asking` compares two such fetchers that agree on the requests made.
Later requests depend on earlier answers, so agreement on the requests of one resolution is all that can
be asked for.

**One request.**  `Query.Asks` bounds the requests of a query.  `Search.Explores` says when a hint is
looked at, and `Search.asked_of_stepped` that a step makes no other requests than those the hint leads
to.

**The theorem.**  `Resolver.asked_of_resolve` puts both together.
-/

namespace Federation

/-! ### Requests -/

/-- A request for the statement of an issuer about a subject. -/
abbrev Request : Type :=
  EntityId × EntityId

/-- Answers each request from the request alone and keeps all of them in order. -/
def Fetcher.asking (answer : EntityId → EntityId → Except FetchFailure String) :
    Fetcher (List Request) :=
  fun issuer subject asked => (answer issuer subject, asked ++ [(issuer, subject)])

/-- A resolver that keeps its requests. -/
def Resolver.asking (answer : EntityId → EntityId → Except FetchFailure String)
    (verifier : Verifier) : Resolver (List Request) where
  fetcher := .asking answer
  verifier := verifier

/-! ### Two runs -/

/-- The answers to some requests are the same. -/
def Fetcher.Agree (answer other : EntityId → EntityId → Except FetchFailure String)
    (requests : List Request) : Prop :=
  ∀ request ∈ requests, other request.1 request.2 = answer request.1 request.2

namespace Resolver

variable {answer other : EntityId → EntityId → Except FetchFailure String} {verifier : Verifier}

/-- Fetchers that agree on what has been asked have done the same so far. -/
lemma mirrors_asking :
    (asking answer verifier).Mirrors id (Fetcher.Agree answer other) (asking other verifier) where
  verifier_eq := rfl
  earlier issuer subject asked agree request mem := agree request (List.mem_append_left _ mem)
  fetcher_eq issuer subject asked agree := by
    have same : other issuer subject = answer issuer subject :=
      agree (issuer, subject) (List.mem_append_right asked (List.mem_singleton_self _))
    show (other issuer subject, asked ++ [(issuer, subject)]) = _
    rw [same]
    rfl

/-- Keeping the requests makes no other difference. -/
theorem resolve_ofFunction (goal : Goal) (asked : List Request) :
    (Resolver.mk (.ofFunction answer) verifier).resolve goal () =
      ((asking answer verifier).resolve goal asked).seen fun _ => () := by
  have mirrors : (asking answer verifier).Mirrors (fun _ => ()) (fun _ => True)
      (Resolver.mk (.ofFunction answer) verifier) :=
    { verifier_eq := rfl
      earlier := fun _ _ _ _ => trivial
      fetcher_eq := fun _ _ _ _ => rfl }
  exact mirrors.resolve goal asked trivial

end Resolver

/-! ### One request -/

/-- Every request of the query is of a certain kind. -/
def Query.Asks {α : Type} (kind : Request → Prop) (q : Query (List Request) α) : Prop :=
  ∀ known, ∃ made, (q known).2.source = known.source ++ made ∧ ∀ request ∈ made, kind request

namespace Query.Asks

variable {kind kind' : Request → Prop} {α β : Type}

/-- A query that does not change the fetcher makes no request. -/
lemma nothing {q : Query (List Request) α} (idle : ∀ known, (q known).2.source = known.source) :
    Asks kind q :=
  fun known => ⟨[], by rw [idle, List.append_nil], fun _ mem => by cases mem⟩

lemma judge (verdict : Except Failure α) : Asks kind (Resolver.judge verdict) :=
  nothing fun _ => rfl

lemma pure (a : α) : Asks kind (Pure.pure a : Query (List Request) α) :=
  nothing fun _ => rfl

lemma bind {x : Query (List Request) α} {f : α → Query (List Request) β} (first : Asks kind x)
    (second : ∀ a, Asks kind (f a)) : Asks kind (x >>= f) := by
  intro known
  rw [bind_apply]
  obtain ⟨made, asked, each⟩ := first known
  cases answered : x known with
  | mk answer mid =>
      rw [answered] at asked
      cases answer with
      | error failure => exact ⟨made, asked, each⟩
      | ok a =>
          obtain ⟨further, asked', each'⟩ := second a mid
          refine ⟨made ++ further, ?_, fun request mem => ?_⟩
          · show (f a mid).2.source = _
            rw [asked', show mid.source = _ from asked, List.append_assoc]
          · rcases List.mem_append.mp mem with mem | mem
            · exact each request mem
            · exact each' request mem

lemma mono {q : Query (List Request) α} (asks : Asks kind q)
    (weaker : ∀ request, kind request → kind' request) : Asks kind' q := by
  intro known
  obtain ⟨made, asked, each⟩ := asks known
  exact ⟨made, asked, fun request mem => weaker request (each request mem)⟩

end Query.Asks

/-- The requests that a hint of an entity leads to: for what the hint publishes about itself and for what
it states about the entity. -/
def Request.Follows (entity hint : EntityId) (request : Request) : Prop :=
  request = (hint, hint) ∨ request = (hint, entity)

namespace Resolver

variable {answer : EntityId → EntityId → Except FetchFailure String} {verifier : Verifier}
  {goal : Goal}

lemma fetch_asks (issuer subject : EntityId) :
    Query.Asks (· = (issuer, subject)) ((asking answer verifier).fetch issuer subject) :=
  fun _ => ⟨[(issuer, subject)], rfl, fun _ mem => List.mem_singleton.mp mem⟩

lemma fetchIssued_asks (issuer subject : EntityId) (keys : KeySet) :
    Query.Asks (· = (issuer, subject))
      ((asking answer verifier).fetchIssued issuer subject keys) :=
  (fetch_asks issuer subject).bind fun _ => .judge _

lemma anchorConfiguration_asks :
    Query.Asks (· = (goal.anchor, goal.anchor))
      ((asking answer verifier).anchorConfiguration goal) := by
  intro known
  unfold anchorConfiguration
  split
  · exact ⟨[], (List.append_nil _).symm, fun _ mem => by cases mem⟩
  · refine (fetchIssued_asks goal.anchor goal.anchor goal.anchorKeys).bind (fun configuration =>
      Query.Asks.bind (.nothing ?_) fun _ => .pure _) known
    exact fun _ => rfl

lemma learn_asks (hint : EntityId) :
    Query.Asks (· = (hint, hint)) ((asking answer verifier).learn goal hint) := by
  unfold learn
  split
  · rename_i is_anchor
    subst is_anchor
    exact anchorConfiguration_asks.bind fun _ => .pure _
  · exact ((fetch_asks hint hint).bind fun _ => .judge _).bind fun _ => .pure _

/-- Looking at a hint follows it. -/
lemma examine_asks (top : Frame) (hint : EntityId) :
    Query.Asks (Request.Follows top.entity hint)
      ((asking answer verifier).examine goal top hint) := by
  refine ((learn_asks hint).mono fun _ => .inl).bind fun ⟨configuration, keys⟩ => ?_
  refine (Query.Asks.judge _).bind fun _ => (Query.Asks.judge _).bind fun _ => ?_
  refine ((fetchIssued_asks hint top.entity keys).mono fun _ => .inr).bind fun vouching => ?_
  refine (Query.Asks.judge _).bind fun allowance => ?_
  split
  · exact .pure _
  · exact (Query.Asks.judge _).bind fun _ => .pure _

end Resolver

/-- The state a move leads to. -/
def Move.search {σ : Type} {room : Nat} : Move σ room → Search σ room
  | .onward s => s
  | .done _ s => s

/-- A configuration on top of a path is the leaf's or one that its entity serves. -/
lemma Climb.published_topOf {σ : Type} {r : Resolver σ} {goal : Goal} {links : List Link}
    (climb : Climb r goal links) : Link.topOf goal.leaf links = goal.leaf ∨
      r.Published (Link.topOf goal.leaf links).subject (Link.topOf goal.leaf links) := by
  cases climb with
  | leaf => exact .inl rfl
  | superior climb fresh other published binds => exact .inr published

namespace Search

/-- In a state of the search, a hint of the entity on top of the path is looked at. -/
structure Explores {σ : Type} (r : Resolver σ) (goal : Goal) (source : σ) (s : Search σ goal.room)
    (entity hint : EntityId) : Prop where
  reached : Reached r goal source s
  on_top : (s.frames.map Frame.entity).head? = some entity
  /-- The entity gives the hint: the leaf in the configuration the resolution is about, any other entity
  in the one it serves. -/
  hinted : ∃ configuration, configuration.subject = entity ∧ hint ∈ configuration.hints ∧
    (configuration = goal.leaf ∨ r.Published entity configuration)
  fresh : hint ∉ s.frames.map Frame.entity

/-- The request is made when a hint of an entity is looked at, and follows that hint. -/
def Explored (r : Resolver (List Request)) (goal : Goal) (request : Request) : Prop :=
  ∃ s entity hint made, Explores r goal [] s entity hint ∧
    (step r goal s).search.knowledge.source = s.knowledge.source ++ made ∧
    request ∈ made ∧ request.Follows entity hint

variable {answer : EntityId → EntityId → Except FetchFailure String} {verifier : Verifier}
  {goal : Goal}

lemma attempt_asks (top : Frame) (lower : List Frame) (hint : EntityId) :
    Query.Asks (fun request => hint ∉ (top :: lower).map Frame.entity ∧
        request.Follows top.entity hint)
      (attempt (.asking answer verifier) goal top lower hint) := by
  unfold attempt
  split
  · exact .judge _
  · rename_i fresh
    have fresh' : hint ∉ (top :: lower).map Frame.entity := by
      simpa only [List.any_eq_true, List.mem_map, beq_iff_eq] using fresh
    split
    · exact (Resolver.examine_asks top hint).mono fun _ follows => ⟨fresh', follows⟩
    · exact .judge _

/-- **A step makes no other requests than those a hint leads to.** -/
theorem asked_of_stepped {s : Search (List Request) goal.room} {move : Move (List Request) goal.room}
    (reached : Reached (.asking answer verifier) goal [] s)
    (stepped : Stepped (.asking answer verifier) goal s move) :
    ∃ made, move.search.knowledge.source = s.knowledge.source ++ made ∧
      ∀ request ∈ made, ∃ entity hint,
        Explores (.asking answer verifier) goal [] s entity hint ∧ request.Follows entity hint := by
  have attempted_asks : ∀ {top lower hint untried answered known}, s.frames = top :: lower →
      top.untried = hint :: untried →
      attempt (.asking answer verifier) goal top lower hint s.knowledge = (answered, known) →
      ∃ made, known.source = s.knowledge.source ++ made ∧
        ∀ request ∈ made, ∃ entity hint,
          Explores (.asking answer verifier) goal [] s entity hint ∧
            request.Follows entity hint := by
    intro top lower hint untried answered known frames some_left attempted
    obtain ⟨made, asked, each⟩ := attempt_asks top lower hint s.knowledge
    rw [attempted] at asked
    refine ⟨made, asked, fun request mem => ⟨top.entity, hint, ?_, (each request mem).2⟩⟩
    obtain ⟨sound, _⟩ := accounted_of_reached reached
    rcases sound.framed with empty | ⟨links, climb, framed⟩
    · rw [frames] at empty
      cases empty
    · rw [frames] at framed
      obtain ⟨_, stands⟩ := framed.top_stands
      exact
        { reached := reached
          on_top := by rw [frames]; rfl
          hinted := ⟨_, stands.entity_eq.symm,
            stands.untried_subset (some_left ▸ List.mem_cons_self),
            stands.entity_eq ▸ climb.published_topOf⟩
          fresh := by rw [frames]; exact (each request mem).1 }
  have nothing : ∃ made, s.knowledge.source = s.knowledge.source ++ made ∧
      ∀ request ∈ made, ∃ entity hint,
        Explores (.asking answer verifier) goal [] s entity hint ∧ request.Follows entity hint :=
    ⟨[], (List.append_nil _).symm, fun _ mem => by cases mem⟩
  cases stepped with
  | empty frames => exact nothing
  | exhausted frames none_left next_frames next_knowledge =>
      rw [Move.search, next_knowledge]
      exact nothing
  | refused frames some_left attempted => exact attempted_asks frames some_left attempted
  | pushed frames some_left attempted => exact attempted_asks frames some_left attempted
  | arrived frames some_left attempted => exact attempted_asks frames some_left attempted

/-- **Every request of a search follows a hint.** -/
theorem asked_of_run (s : Search (List Request) goal.room)
    (reached : Reached (.asking answer verifier) goal [] s) :
    ∀ request ∈ (run (.asking answer verifier) goal s).2.knowledge.source,
      request ∈ s.knowledge.source ∨ Explored (.asking answer verifier) goal request := by
  -- What a step adds is explored in the state before it; the rest was asked before.
  have added : ∀ {s : Search (List Request) goal.room} {move},
      Reached (.asking answer verifier) goal [] s →
      Stepped (.asking answer verifier) goal s move →
      ∀ request ∈ move.search.knowledge.source,
        request ∈ s.knowledge.source ∨ Explored (.asking answer verifier) goal request := by
    intro s move reached stepped request mem
    obtain ⟨made, asked, each⟩ := asked_of_stepped reached stepped
    rcases List.mem_append.mp (asked ▸ mem) with before | now
    · exact .inl before
    · obtain ⟨entity, hint, explores, follows⟩ := each request now
      refine .inr ⟨s, entity, hint, made, explores, ?_, now, follows⟩
      rw [stepped.eq_step]
      exact asked
  revert reached
  refine run_induction (P := fun s outcome => Reached (.asking answer verifier) goal [] s →
    ∀ request ∈ outcome.2.knowledge.source,
      request ∈ s.knowledge.source ∨ Explored (.asking answer verifier) goal request) ?done ?onward s
  case done =>
    intro s result final stepped reached
    exact added reached stepped
  case onward =>
    intro s next outcome stepped ih reached request mem
    rcases ih (reached.tail stepped.eq_step) request mem with before | explored
    · exact added reached stepped request before
    · exact .inr explored

end Search

/-! ### The theorem -/

namespace Resolver

/-- **Only statements along the explored hints can influence a resolution.**  Whoever answers its
requests alike gets the same requests in the same order and the same outcome, and every request follows
a hint, not on the path yet, of the entity on top of the path. -/
theorem asked_of_resolve (answer : EntityId → EntityId → Except FetchFailure String)
    (verifier : Verifier) (goal : Goal) :
    (∀ other, Fetcher.Agree answer other ((asking answer verifier).resolve goal []).source →
      (asking other verifier).resolve goal [] = (asking answer verifier).resolve goal [] ∧
      (Resolver.mk (.ofFunction other) verifier).resolve goal () =
        (Resolver.mk (.ofFunction answer) verifier).resolve goal ()) ∧
    ∀ request ∈ ((asking answer verifier).resolve goal []).source,
      Search.Explored (asking answer verifier) goal request := by
  constructor
  · intro other agree
    have same : (asking other verifier).resolve goal [] = (asking answer verifier).resolve goal [] :=
      mirrors_asking.resolve goal [] agree
    refine ⟨same, ?_⟩
    rw [resolve_ofFunction goal [], resolve_ofFunction goal [], same]
  · intro request mem
    by_cases searches : Searches goal
    · obtain ⟨self_issued, current, different⟩ := searches
      rw [resolve_eq_afterSearch self_issued current different, source_afterSearch] at mem
      rcases Search.asked_of_run _ .refl request mem with before | explored
      · cases before
      · exact explored
    · obtain ⟨unasked, _⟩ := resolve_of_not_searches searches (asking answer verifier)
        (asking answer verifier) [] []
      rw [unasked] at mem
      cases mem

/-! ### Evaluation -/

/-- The requests of a resolution with a search, if the search takes at most so many steps. -/
def requestsWithin (n : Nat) (r : Resolver (List Request)) (goal : Goal) : Option (List Request) :=
  if goal.leaf.isSelfIssued = true ∧ goal.leaf.subject ≠ goal.anchor then
    match (do goal.leaf.checkValidity goal.now; goal.leaf.checkRequired : Except Failure Unit),
        Search.within r goal n (Search.start goal ⟨[], none⟩ [.passed .start .resolving]) with
    | .ok (), .done _ final => some final.knowledge.source
    | _, _ => none
  else none

lemma source_of_requestsWithin {n : Nat} {r : Resolver (List Request)} {goal : Goal}
    {requests : List Request} (h : requestsWithin n r goal = some requests) :
    (r.resolve goal []).source = requests := by
  unfold requestsWithin at h
  split at h
  · rename_i begun
    obtain ⟨self_issued, other⟩ := begun
    split at h
    · rename_i result final checked searched
      obtain ⟨⟨⟩, valid, required⟩ := Except.bind_eq_ok_iff.mp checked
      have found : r.searchFrom goal [] = (result, final) := Search.run_eq_of_within searched
      cases h
      rw [resolve_eq_afterSearch self_issued ⟨valid, required⟩ other, source_afterSearch, found]
    · cases h
  · cases h

end Resolver

/-- The same federation, with a stranger that vouches for the relying party as well. -/
def Table.withStranger : Table :=
  underAuthority ++ [configuration "https://stranger" "stranger" ["stranger"] ["https://anchor"],
    vouching "https://stranger" "https://party" "stranger" ["party"],
    vouching "https://anchor" "https://stranger" "root" ["stranger"]]

/-- No entity on the path names the stranger, so it is never asked. -/
theorem Table.asked_withStranger :
    ∃ leaf,
      Statement.ofClaims (configuration "https://party" "party" ["party"]
        ["https://authority"]).claims = .ok leaf ∧
      ((Resolver.asking underAuthority.answer underAuthority.resolver.verifier).resolve
          { terms "https://anchor" "root" with leaf } []).source =
        [(⟨"https://authority"⟩, ⟨"https://authority"⟩), (⟨"https://authority"⟩, ⟨"https://party"⟩),
          (⟨"https://anchor"⟩, ⟨"https://anchor"⟩), (⟨"https://anchor"⟩, ⟨"https://authority"⟩)] ∧
      (Resolver.asking withStranger.answer underAuthority.resolver.verifier).resolve
          { terms "https://anchor" "root" with leaf } [] =
        (Resolver.asking underAuthority.answer underAuthority.resolver.verifier).resolve
          { terms "https://anchor" "root" with leaf } [] := by
  have evaluated : ((Statement.ofClaims (configuration "https://party" "party" ["party"]
      ["https://authority"]).claims).toOption.bind fun leaf =>
        (Resolver.requestsWithin 4
          (.asking underAuthority.answer underAuthority.resolver.verifier)
          { terms "https://anchor" "root" with leaf })) =
      some [(⟨"https://authority"⟩, ⟨"https://authority"⟩),
        (⟨"https://authority"⟩, ⟨"https://party"⟩), (⟨"https://anchor"⟩, ⟨"https://anchor"⟩),
        (⟨"https://anchor"⟩, ⟨"https://authority"⟩)] := by
    decide +kernel
  obtain ⟨leaf, read, found⟩ := Option.bind_eq_some_iff.mp evaluated
  have asked := Resolver.source_of_requestsWithin found
  refine ⟨leaf, Except.toOption_eq_some_iff.mp read, asked,
    ((Resolver.asked_of_resolve _ _ _).1 withStranger.answer ?_).1⟩
  rw [asked]
  intro request mem
  simp only [List.mem_cons, List.not_mem_nil, or_false] at mem
  rcases mem with rfl | rfl | rfl | rfl
  · rfl
  · rfl
  · rfl
  · rfl

end Federation
