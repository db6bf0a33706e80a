import Federation.Proofs.Resolution.Table

/-!
# The search finds the first route

The search keeps a stack, uses up hints and remembers the anchor.  None of this shows in what it
finds: under a fetcher whose answers do not depend on its state it is the first of all routes from the
leaf to the anchor, in the order in which hints are listed.

**Routes.**  A `Route` climbs from the entity on top of a path to the anchor.  It is described by the
position, in each configuration, of the hint it takes.  `Route.First` is the one whose positions come
first, compared from the leaf upwards.

**Stacks.**  A route does not mind which hints lower entities have left (`Route.of_alike`), and using up
a hint that does not lead to the anchor only renumbers the others (`Route.taken_iff`).

**The search.**  `Outcome.of_run` says what a search finds from any stack: the first route of its top
entity, or else what it finds from the stack below.
-/

namespace Federation

variable {σ : Type} {r : Resolver σ} {goal : Goal} {source : σ}

/-! ### Routes -/

/-- A hint that leads on from the top of a path: it is new, there is room for it and it passes the
checks. -/
structure Resolver.LeadsTo (r : Resolver σ) (goal : Goal) (source : σ) (top : Frame)
    (lower : List Frame) (hint : EntityId) (admission : Admission) : Prop where
  fresh : hint ∉ (top :: lower).map Frame.entity
  room : (top :: lower).length < goal.maxHops
  admitted : r.verdict goal source top hint = .ok admission

/-- A way from the entity on top of a path to the anchor, by the positions of the hints it takes, with
the statements above the leaf's configuration that it ends with. -/
inductive Route (r : Resolver σ) (goal : Goal) (source : σ) :
    Frame → List Frame → List Nat → List Statement → Prop
  /-- The hint is the anchor. -/
  | reach {top : Frame} {lower : List Frame} {position : Nat} {hint : EntityId}
      {configuration vouching : Statement} (listed : top.untried[position]? = some hint)
      (leads : r.LeadsTo goal source top lower hint (.anchor configuration vouching)) :
      Route r goal source top lower [position]
        (Search.pathFrom configuration vouching (top :: lower))
  /-- The hint is a further entity, from which a way leads on. -/
  | via {top : Frame} {lower : List Frame} {position : Nat} {hint : EntityId} {frame : Frame}
      {positions : List Nat} {path : List Statement} (listed : top.untried[position]? = some hint)
      (leads : r.LeadsTo goal source top lower hint (.superior frame))
      (further : Route r goal source frame (top :: lower) positions path) :
      Route r goal source top lower (position :: positions) path

namespace Route

variable {top frame : Frame} {lower lower' : List Frame} {positions positions' : List Nat}
  {path path' : List Statement}

/-- The route whose positions come first. -/
def First (r : Resolver σ) (goal : Goal) (source : σ) (top : Frame) (lower : List Frame)
    (positions : List Nat) (path : List Statement) : Prop :=
  Route r goal source top lower positions path ∧
    ∀ positions' path', Route r goal source top lower positions' path' →
      positions' = positions ∨ List.Lex (· < ·) positions positions'

/-- Positions tell a route. -/
lemma path_unique (route : Route r goal source top lower positions path)
    (route' : Route r goal source top lower positions path') : path = path' := by
  induction route with
  | reach listed leads =>
      cases route' with
      | reach listed' leads' =>
          obtain rfl := Option.some.inj (listed.symm.trans listed')
          cases leads.admitted.symm.trans leads'.admitted
          rfl
      | via listed' leads' further' => cases further'
  | via listed leads further ih =>
      cases route' with
      | reach listed' leads' => cases further
      | via listed' leads' further' =>
          obtain rfl := Option.some.inj (listed.symm.trans listed')
          cases leads.admitted.symm.trans leads'.admitted
          exact ih further'

/-- There is only one first route. -/
lemma First.unique (first : First r goal source top lower positions path)
    (first' : First r goal source top lower positions' path') : path = path' := by
  have before : ∀ {xs ys : List Nat}, List.Lex (· < ·) xs ys → ¬ List.Lex (· < ·) ys xs := by
    intro xs ys h
    induction h with
    | nil =>
        intro h'
        cases h'
    | rel lt =>
        intro h'
        cases h' with
        | rel gt => exact Nat.lt_asymm lt gt
        | cons _ => exact Nat.lt_irrefl _ lt
    | cons _ ih =>
        intro h'
        cases h' with
        | rel lt => exact Nat.lt_irrefl _ lt
        | cons h' => exact ih h'
  rcases first.2 positions' path' first'.1 with rfl | later
  · exact first.1.path_unique first'.1
  · rcases first'.2 positions path first.1 with rfl | later'
    · exact first.1.path_unique first'.1
    · exact absurd later' (before later)

/-! ### Stacks -/

/-- What a route needs to know of the entities below. -/
def trace (frame : Frame) : EntityId × Option Statement :=
  (frame.entity, frame.vouching)

lemma pathFrom_of_alike {configuration vouching : Statement}
    (alike : lower.map trace = lower'.map trace) :
    Search.pathFrom configuration vouching lower = Search.pathFrom configuration vouching lower' := by
  have by_trace : ∀ frames : List Frame,
      frames.filterMap Frame.vouching = (frames.map trace).filterMap Prod.snd := by
    intro frames
    rw [List.filterMap_map]
    rfl
  rw [Search.pathFrom, Search.pathFrom, by_trace, by_trace, alike]

lemma leadsTo_of_alike {hint : EntityId} {admission : Admission}
    (alike : lower.map trace = lower'.map trace)
    (leads : r.LeadsTo goal source top lower hint admission) :
    r.LeadsTo goal source top lower' hint admission := by
  have entities : ∀ frames : List Frame,
      frames.map Frame.entity = (frames.map trace).map Prod.fst := by
    intro frames
    rw [List.map_map]
    rfl
  have length : lower.length = lower'.length := by
    simpa using congrArg List.length alike
  obtain ⟨fresh, room, admitted⟩ := leads
  refine ⟨?_, ?_, admitted⟩
  · rw [List.map_cons, entities, alike, ← entities, ← List.map_cons] at fresh
    exact fresh
  · rw [List.length_cons, length, ← List.length_cons] at room
    exact room

/-- A route does not mind which hints the entities below have left. -/
lemma of_alike (alike : lower.map trace = lower'.map trace)
    (route : Route r goal source top lower positions path) :
    Route r goal source top lower' positions path := by
  induction route generalizing lower' with
  | @reach top lower position hint configuration vouching listed leads =>
      have alike' : (top :: lower).map trace = (top :: lower').map trace := by
        rw [List.map_cons, alike, List.map_cons]
      rw [pathFrom_of_alike alike']
      exact .reach listed (leadsTo_of_alike alike leads)
  | @via top lower position hint frame positions path listed leads further ih =>
      have alike' : (top :: lower).map trace = (top :: lower').map trace := by
        rw [List.map_cons, alike, List.map_cons]
      exact .via listed (leadsTo_of_alike alike leads) (ih alike')

/-- The hints that are left do not matter to a hint. -/
lemma leadsTo_taken_iff {hint : EntityId} {untried : List EntityId} {admission : Admission} :
    r.LeadsTo goal source (Search.taken top untried) lower hint admission ↔
      r.LeadsTo goal source top lower hint admission := by
  constructor
  · rintro ⟨fresh, room, admitted⟩
    exact ⟨fresh, room, admitted⟩
  · rintro ⟨fresh, room, admitted⟩
    exact ⟨fresh, room, admitted⟩

variable {hint : EntityId} {untried : List EntityId} {position : Nat}

/-- Using up the first hint renumbers the routes that take another one. -/
lemma taken_iff (some_left : top.untried = hint :: untried) :
    Route r goal source (Search.taken top untried) lower (position :: positions) path ↔
      Route r goal source top lower ((position + 1) :: positions) path := by
  have alike : (Search.taken top untried :: lower).map trace = (top :: lower).map trace := rfl
  have listed_iff : ∀ {hint : EntityId}, (Search.taken top untried).untried[position]? = some hint ↔
      top.untried[position + 1]? = some hint := by
    intro hint
    rw [some_left, List.getElem?_cons_succ]
    rfl
  constructor
  · intro route
    cases route with
    | reach listed leads =>
        rw [pathFrom_of_alike alike]
        exact .reach (listed_iff.mp listed) (leadsTo_taken_iff.mp leads)
    | via listed leads further =>
        exact .via (listed_iff.mp listed) (leadsTo_taken_iff.mp leads) (further.of_alike alike)
  · intro route
    cases route with
    | reach listed leads =>
        rw [← pathFrom_of_alike alike]
        exact .reach (listed_iff.mpr listed) (leadsTo_taken_iff.mpr leads)
    | via listed leads further =>
        exact .via (listed_iff.mpr listed) (leadsTo_taken_iff.mpr leads)
          (further.of_alike alike.symm)

/-- A route takes some hint. -/
lemma exists_cons (route : Route r goal source top lower positions path) :
    ∃ position rest, positions = position :: rest := by
  cases route with
  | reach listed leads => exact ⟨_, _, rfl⟩
  | via listed leads further => exact ⟨_, _, rfl⟩

lemma first_listed (some_left : top.untried = hint :: untried) : top.untried[0]? = some hint := by
  rw [some_left]
  rfl

/-- A route that takes the first hint ends with it or goes on from where it leads. -/
lemma takes_first (some_left : top.untried = hint :: untried)
    (route : Route r goal source top lower (0 :: positions) path) :
    (∃ configuration vouching, positions = [] ∧
        r.LeadsTo goal source top lower hint (.anchor configuration vouching)) ∨
      ∃ frame, r.LeadsTo goal source top lower hint (.superior frame) ∧
        Route r goal source frame (top :: lower) positions path := by
  cases route with
  | reach listed leads =>
      obtain rfl := Option.some.inj ((first_listed some_left).symm.trans listed)
      exact .inl ⟨_, _, rfl, leads⟩
  | via listed leads further =>
      obtain rfl := Option.some.inj ((first_listed some_left).symm.trans listed)
      exact .inr ⟨_, leads, further⟩

/-- Among the routes that take the first hint the first one is the first of all. -/
lemma first_of_takes_first (route : Route r goal source top lower (0 :: positions) path)
    (least : ∀ positions' path', Route r goal source top lower (0 :: positions') path' →
      positions' = positions ∨ List.Lex (· < ·) positions positions') :
    First r goal source top lower (0 :: positions) path := by
  refine ⟨route, fun positions' path' route' => ?_⟩
  obtain ⟨position, rest, rfl⟩ := route'.exists_cons
  cases position with
  | zero =>
      rcases least rest path' route' with rfl | later
      · exact .inl rfl
      · exact .inr (.cons later)
  | succ position => exact .inr (.rel (Nat.succ_pos position))

/-- If the first hint is the anchor, no route comes before it. -/
lemma first_of_reach {configuration vouching : Statement} (some_left : top.untried = hint :: untried)
    (leads : r.LeadsTo goal source top lower hint (.anchor configuration vouching)) :
    First r goal source top lower [0]
      (Search.pathFrom configuration vouching (top :: lower)) := by
  refine first_of_takes_first (.reach (first_listed some_left) leads) fun positions' path' route => ?_
  rcases route.takes_first some_left with ⟨_, _, none_further, _⟩ | ⟨frame, leads', _⟩
  · exact .inl none_further
  · cases leads.admitted.symm.trans leads'.admitted

/-- If the first hint leads to a further entity, the first route from there comes first here. -/
lemma First.via (some_left : top.untried = hint :: untried)
    (leads : r.LeadsTo goal source top lower hint (.superior frame))
    (first : First r goal source frame (top :: lower) positions path) :
    First r goal source top lower (0 :: positions) path := by
  refine first_of_takes_first (.via (first_listed some_left) leads first.1) fun positions' path' route => ?_
  rcases route.takes_first some_left with ⟨_, _, _, leads'⟩ | ⟨frame', leads', further⟩
  · cases leads.admitted.symm.trans leads'.admitted
  · cases leads.admitted.symm.trans leads'.admitted
    exact first.2 positions' path' further

lemma First.of_alike (alike : lower.map trace = lower'.map trace)
    (first : First r goal source top lower positions path) :
    First r goal source top lower' positions path :=
  ⟨first.1.of_alike alike, fun positions' path' route =>
    first.2 positions' path' (route.of_alike alike.symm)⟩

/-- If no route takes the first hint, the first of the others comes first. -/
lemma First.of_taken (some_left : top.untried = hint :: untried)
    (dead : ∀ positions path, ¬ Route r goal source top lower (0 :: positions) path)
    (first : First r goal source (Search.taken top untried) lower (position :: positions) path) :
    First r goal source top lower ((position + 1) :: positions) path := by
  refine ⟨(taken_iff some_left).mp first.1, fun positions' path' route => ?_⟩
  obtain ⟨position', rest, rfl⟩ := route.exists_cons
  cases position' with
  | zero => exact absurd route (dead rest path')
  | succ position' =>
      rcases first.2 _ _ ((taken_iff some_left).mpr route) with same | later
      · cases same
        exact .inl rfl
      · cases later with
        | rel lt => exact .inr (.rel (Nat.succ_lt_succ lt))
        | cons later => exact .inr (.cons later)

end Route

/-! ### The search -/

/-- What a search finds from a stack. -/
def Search.Finds (r : Resolver σ) (goal : Goal) (source : σ) :
    List Frame → Except Failure (List Statement) → Prop
  | [], result => ∃ failure, result = .error failure
  | top :: lower, result =>
    (∃ positions path, Route.First r goal source top lower positions path ∧ result = .ok path) ∨
      (∀ positions path, ¬ Route r goal source top lower positions path) ∧
        Finds r goal source lower result

namespace Search.Finds

variable {top : Frame} {lower : List Frame} {hint : EntityId} {untried : List EntityId}
  {result : Except Failure (List Statement)}

/-- A hint that no route takes does not change what is found. -/
lemma of_taken (some_left : top.untried = hint :: untried)
    (dead : ∀ positions path, ¬ Route r goal source top lower (0 :: positions) path)
    (finds : Finds r goal source (taken top untried :: lower) result) :
    Finds r goal source (top :: lower) result := by
  rcases finds with ⟨positions, path, first, found⟩ | ⟨none, below⟩
  · obtain ⟨position, rest, rfl⟩ := first.1.exists_cons
    exact .inl ⟨_, path, first.of_taken some_left dead, found⟩
  · refine .inr ⟨fun positions path route => ?_, below⟩
    obtain ⟨position, rest, rfl⟩ := route.exists_cons
    cases position with
    | zero => exact dead rest path route
    | succ position => exact none _ _ ((Route.taken_iff some_left).mpr route)

/-- A hint that is tried meets the fate it has for itself. -/
lemma leadsTo_iff {admission : Admission} {known : Knowledge σ} (steady : r.Steady)
    (settled : r.AnchorSettled goal source known) :
    (attempt r goal top lower hint known).1 = .ok admission ↔
      r.LeadsTo goal source top lower hint admission := by
  have same := steady.examine_eq settled top hint
  cases attempted : attempt r goal top lower hint known with
  | mk answer known' =>
      constructor
      · intro accepted
        have accepted' : answer = .ok admission := accepted
        rw [accepted'] at attempted
        obtain ⟨fresh, room, examined⟩ := attempt_eq_ok_iff.mp attempted
        rw [examined] at same
        exact ⟨fresh, room, same.symm⟩
      · rintro ⟨fresh, room, admitted⟩
        rw [← same] at admitted
        have examined : r.examine goal top hint known =
            (.ok admission, (r.examine goal top hint known).2) := Prod.ext admitted rfl
        rw [attempt_eq_ok_iff.mpr ⟨fresh, room, examined⟩] at attempted
        cases attempted
        rfl

/-- An entity without hints has no route. -/
lemma of_exhausted (none_left : top.untried = []) (finds : Finds r goal source lower result) :
    Finds r goal source (top :: lower) result := by
  refine .inr ⟨fun positions path route => ?_, finds⟩
  cases route with
  | reach listed leads => simp [none_left] at listed
  | via listed leads further => simp [none_left] at listed

/-- No route takes a hint that leads nowhere. -/
lemma of_refused (some_left : top.untried = hint :: untried)
    (no_lead : ∀ admission, ¬ r.LeadsTo goal source top lower hint admission)
    (finds : Finds r goal source (taken top untried :: lower) result) :
    Finds r goal source (top :: lower) result := by
  refine of_taken some_left (fun positions path route => ?_) finds
  rcases route.takes_first some_left with ⟨_, _, _, leads⟩ | ⟨frame, leads, _⟩
  · exact no_lead _ leads
  · exact no_lead _ leads

/-- What is found from the further entity a hint leads to, or below it, is found from here. -/
lemma of_pushed {frame : Frame} (some_left : top.untried = hint :: untried)
    (leads : r.LeadsTo goal source top lower hint (.superior frame))
    (finds : Finds r goal source (frame :: taken top untried :: lower) result) :
    Finds r goal source (top :: lower) result := by
  have alike : (taken top untried :: lower).map Route.trace = (top :: lower).map Route.trace := rfl
  rcases finds with ⟨positions, path, first, found⟩ | ⟨none, below⟩
  · exact .inl ⟨_, path, (first.of_alike alike).via some_left leads, found⟩
  · refine of_taken some_left (fun positions path route => ?_) below
    rcases route.takes_first some_left with ⟨_, _, _, leads'⟩ | ⟨frame', leads', further⟩
    · cases leads.admitted.symm.trans leads'.admitted
    · cases leads.admitted.symm.trans leads'.admitted
      exact none _ _ (further.of_alike alike.symm)

/-- **From every stack the search finds the first route of the top entity**, or what it finds from
the stack below if there is none. -/
theorem of_run (steady : r.Steady) (s : Search σ goal.room)
    (settled : r.AnchorSettled goal source s.knowledge) :
    Finds r goal source s.frames (run r goal s).1 := by
  refine run_induction
    (P := fun s outcome =>
      r.AnchorSettled goal source s.knowledge → Finds r goal source s.frames outcome.1)
    ?done ?onward s settled
  case done =>
    intro s result final stepped settled
    cases stepped with
    | empty frames =>
        rw [frames]
        exact ⟨_, rfl⟩
    | arrived frames some_left attempted =>
        have leads := (leadsTo_iff steady settled).mp (congrArg Prod.fst attempted)
        rw [frames]
        exact .inl ⟨_, _, Route.first_of_reach some_left leads, rfl⟩
  case onward =>
    intro s next outcome stepped ih settled
    have keeps : ∀ {top lower hint answer},
        attempt r goal top lower hint s.knowledge = (answer, next.knowledge) →
        r.AnchorSettled goal source next.knowledge := by
      intro top lower hint answer attempted
      have kept :=
        attempt_keeps lower (steady.anchorSettled_of_examine goal source top hint) s.knowledge settled
      rwa [attempted] at kept
    cases stepped with
    | exhausted frames none_left next_frames next_knowledge =>
        have finds := ih (next_knowledge ▸ settled)
        rw [next_frames] at finds
        rw [frames]
        exact of_exhausted none_left finds
    | refused frames some_left attempted next_frames =>
        have finds := ih (keeps attempted)
        rw [next_frames] at finds
        rw [frames]
        refine of_refused some_left (fun admission leads => ?_) finds
        have accepted := (leadsTo_iff steady settled).mpr leads
        rw [attempted] at accepted
        cases accepted
    | pushed frames some_left attempted next_frames =>
        have finds := ih (keeps attempted)
        have leads := (leadsTo_iff steady settled).mp (congrArg Prod.fst attempted)
        rw [next_frames] at finds
        rw [frames]
        exact of_pushed some_left leads finds

end Search.Finds

/-! ### The resolution -/

/-- Whether a hint is tried, or an entity given up. -/
def Event.isAttempt : Event → Bool
  | tried _ _ => true
  | refused _ _ _ => true
  | exhausted _ => true
  | _ => false

namespace Resolver

/-- Once the policies are looked at, no further hint is tried. -/
lemma conclude_attempts (goal : Goal) (statements : List Statement) :
    (conclude goal statements).2.filter Event.isAttempt = [] := by
  have failing : ∀ phase failure, (failIn phase failure).filter Event.isAttempt = [] := by
    intro phase failure
    unfold failIn
    split
    · rfl
    · rfl
  have sources : ∀ superiors : List Statement,
      (superiors.map fun s => Event.combined s.issuer s.subject).filter Event.isAttempt = [] := by
    intro superiors
    induction superiors with
    | nil => rfl
    | cons s superiors ih => exact ih
  unfold conclude
  dsimp only
  split
  · simp [failing, sources, Event.isAttempt]
  · split
    · simp [failing, sources, Event.isAttempt]
    · split
      · simp [sources, Event.isAttempt]
      · simp [sources, Event.isAttempt]

/-- **The search finds the first route, and its policies decide.**  The anchor is reached exactly if
there is a route to it, and the path found is that of the first one.  What the policies on this path
come to is the result of the resolution: no further hint is tried and nothing more is fetched. -/
theorem first_route_of_resolve (steady : r.Steady) (self_issued : goal.leaf.isSelfIssued = true)
    (current : goal.leaf.Current goal.now) (other : goal.leaf.subject ≠ goal.anchor) :
    ((∃ path, (r.searchFrom goal source).1 = .ok path) ↔
      ∃ positions path, Route r goal source (.ofLeaf goal.leaf) [] positions path) ∧
    (∀ path, (r.searchFrom goal source).1 = .ok path ↔
      ∃ positions, Route.First r goal source (.ofLeaf goal.leaf) [] positions path) ∧
    (∀ path final, r.searchFrom goal source = (.ok path, final) →
      (r.resolve goal source).result = (conclude goal (path ++ [goal.leaf])).1 ∧
      (r.resolve goal source).source = final.knowledge.source ∧
      (r.resolve goal source).events.filter Event.isAttempt =
        final.events.reverse.filter Event.isAttempt) ∧
    (∀ failure final, r.searchFrom goal source = (.error failure, final) →
      (r.resolve goal source).result = .error failure) := by
  have finds : Search.Finds r goal source [.ofLeaf goal.leaf] (r.searchFrom goal source).1 :=
    Search.Finds.of_run steady (Search.start goal ⟨source, none⟩ [.passed .start .resolving])
      (anchorSettled_none source source)
  have resolved : r.resolve goal source = afterSearch goal (r.searchFrom goal source) :=
    resolve_eq_afterSearch self_issued current other
  refine ⟨?_, ?_, ?_, ?_⟩
  · rcases finds with ⟨positions, path, first, found⟩ | ⟨none, failure, found⟩
    · exact ⟨fun _ => ⟨positions, path, first.1⟩, fun _ => ⟨path, found⟩⟩
    · constructor
      · rintro ⟨path, found'⟩
        rw [found] at found'
        cases found'
      · rintro ⟨positions, path, route⟩
        exact absurd route (none positions path)
  · intro path
    rcases finds with ⟨positions, path', first, found⟩ | ⟨none, failure, found⟩
    · constructor
      · intro found'
        rw [found] at found'
        cases found'
        exact ⟨positions, first⟩
      · rintro ⟨positions', first'⟩
        rw [found, first.unique first']
    · constructor
      · intro found'
        rw [found] at found'
        cases found'
      · rintro ⟨positions', first'⟩
        exact absurd first'.1 (none positions' path)
  · intro path final found
    rw [resolved, found]
    refine ⟨rfl, rfl, ?_⟩
    show (final.events.reverse ++ [Event.passed .resolving .anchorReached,
      Event.reached (path ++ [goal.leaf]).length] ++ (conclude goal (path ++ [goal.leaf])).2).filter
        Event.isAttempt = _
    rw [List.filter_append, List.filter_append, conclude_attempts]
    simp [Event.isAttempt]
  · intro failure final found
    rw [resolved, found]
    rfl

end Resolver

/-- A relying party with three superiors: one that does not know it, one under the anchor, and the
anchor itself. -/
def Table.threeSuperiors : Table :=
  [configuration "https://anchor" "root" ["root"] [],
    vouching "https://anchor" "https://authority" "root" ["authority"],
    vouching "https://anchor" "https://party" "root" ["party"],
    configuration "https://authority" "authority" ["authority"] ["https://anchor"],
    vouching "https://authority" "https://party" "authority" ["party"],
    configuration "https://stranger" "stranger" ["stranger"] ["https://anchor"]]

/-- What the relying party publishes. -/
def Table.threeHints : Entry :=
  configuration "https://party" "party" ["party"]
    ["https://stranger", "https://authority", "https://anchor"]

/-- The search passes over the stranger and takes the route through the authority, whose hint stands before
that of the anchor. -/
theorem Table.first_route_threeSuperiors :
    ∃ leaf path positions,
      Statement.ofClaims threeHints.claims = .ok leaf ∧
      (threeSuperiors.resolver.searchFrom { terms "https://anchor" "root" with leaf } ()).1 =
        .ok path ∧
      Route.First threeSuperiors.resolver { terms "https://anchor" "root" with leaf } ()
        (.ofLeaf leaf) [] positions path ∧
      path.map (fun s => (s.issuer.text, s.subject.text)) =
        [("https://anchor", "https://anchor"), ("https://anchor", "https://authority"),
          ("https://authority", "https://party")] := by
  have evaluated : (((Statement.ofClaims threeHints.claims).toOption.bind fun leaf =>
      (Resolver.chainWithin 4 threeSuperiors.resolver
        { terms "https://anchor" "root" with leaf } ()).map fun chain => (leaf, chain)).map
          fun found => found.2.statements.dropLast.map fun s => (s.issuer.text, s.subject.text)) =
      some [("https://anchor", "https://anchor"), ("https://anchor", "https://authority"),
        ("https://authority", "https://party")] := by
    decide +kernel
  obtain ⟨⟨leaf, chain⟩, found, named⟩ := Option.map_eq_some_iff.mp evaluated
  obtain ⟨leaf', read, found⟩ := Option.bind_eq_some_iff.mp found
  obtain ⟨chain', found, same⟩ := Option.map_eq_some_iff.mp found
  cases same
  obtain ⟨self_issued, current, other, path, final, searched, concluded⟩ :=
    Resolver.found_of_chainWithin found
  have reached : (threeSuperiors.resolver.searchFrom { terms "https://anchor" "root" with leaf }
      ()).1 = .ok path := congrArg Prod.fst searched
  obtain ⟨positions, first⟩ := ((Resolver.first_route_of_resolve threeSuperiors.steady_resolver
    self_issued current other).2.1 path).mp reached
  refine ⟨leaf, path, positions, Except.toOption_eq_some_iff.mp read, reached, first, ?_⟩
  rw [(Resolver.concluded concluded).statements_eq, List.dropLast_concat] at named
  exact named

end Federation
