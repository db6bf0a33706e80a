import Federation.Proofs.Resolution.Constrained
import Federation.Resolution.Walk
import Mathlib.Data.List.Forall2

/-!
# A walk is a search

A walk keeps apart what a search keeps together, and says what it does where something is missing.  On the
path of a search nothing is missing, so the walk makes the steps of the search, whatever its fallbacks are.

**Tasks.**  `Walk.Follows` says that a task does what a query does and changes nothing but what is known.  It
is put together along the two (`Walk.Follows.bind`).

**Frames.**  `Walk.Frame.Represents` compares fields that are kept apart with those that are kept together.

**One hint.**  `Walk.follows_examine` is the comparison for a hint.  At the anchor the walk asks for a
configuration that the search has just remembered (`Resolver.remembered_of_attempt`).

**Steps.**  `Walk.step_of_hint` tells a step from the fate of the hint in the search, without the fallbacks.
So the moves lead to the same (`Walk.represents_step`).

**Runs.**  A state that is reached represents one that the search reaches (`Walk.exists_represented`), and a
number of steps leads to the same (`Walk.represents_within`).
-/

namespace Federation

variable {σ : Type}

namespace Walk

variable {fallbacks : Fallbacks} {r : Resolver σ} {goal : Goal}

/-! ### Tasks -/

/-- On these frames the task asks what the query asks, and changes nothing but what is known. -/
def Follows {α β : Type} (frames : List Frame) (deepest : Option (Nat × Failure)) (task : Task σ β)
    (query : Query σ α) (view : α → β) : Prop :=
  ∀ known, task ⟨frames, known, deepest⟩ =
    ((query known).1.map view, ⟨frames, (query known).2, deepest⟩)

namespace Follows

variable {α α' β β' : Type} {frames : List Frame} {deepest : Option (Nat × Failure)}

/-- A task that gets the answer of a query goes on with it. -/
lemma bind {task : Task σ α} {query : Query σ α} {f : α → Task σ β'} {g : α → Query σ α'}
    {view : α' → β'} (first : Follows frames deepest task query id)
    (second : ∀ a, Follows frames deepest (f a) (g a) view) :
    Follows frames deepest (task >>= f) (query >>= g) view := by
  intro known
  rw [Query.bind_apply]
  show ExceptT.bindCont f (task ⟨frames, known, deepest⟩).1 (task ⟨frames, known, deepest⟩).2 = _
  rw [first known]
  cases query known with
  | mk answer mid =>
      cases answer with
      | error failure => rfl
      | ok a => exact second a mid

lemma ask (query : Query σ α) : Follows frames deepest (ask query) query id := by
  intro known
  show ((query known).1, _) = _
  cases (query known).1 with
  | error failure => rfl
  | ok a => rfl

lemma check (verdict : Except Failure α) :
    Follows frames deepest (check verdict : Task σ α) (Resolver.judge verdict) id :=
  ask (Resolver.judge verdict)

lemma pure {b : β} {a : α} {view : α → β} (same : b = view a) :
    Follows frames deepest (Pure.pure b : Task σ β) (Pure.pure a) view :=
  fun _ => Prod.ext (congrArg Except.ok same) rfl

lemma path {task : List Frame → Task σ β} {query : Query σ α} {view : α → β}
    (looks : Follows frames deepest (task frames) query view) :
    Follows frames deepest (path >>= task) query view :=
  looks

end Follows

/-! ### Frames -/

/-- What a frame keeps in separate fields is what another one keeps together. -/
structure Frame.Represents (frame : Frame) (joint : Federation.Frame) : Prop where
  entity_eq : frame.entity = joint.entity
  keys_eq : frame.keys = joint.keys
  untried_eq : frame.hints.drop frame.nextHint = joint.untried
  vouching_eq : frame.vouching = joint.vouching
  remaining_eq : frame.remaining = joint.allowance.map Allowance.remaining
  limit_eq : frame.limit = joint.allowance.map Allowance.bound
  below_eq : frame.below = joint.below

namespace Frame

variable {frame : Frame} {joint : Federation.Frame} {hint : EntityId} {untried : List EntityId}
  {bound : Option Nat}

/-- The fields of a frame, apart. -/
def ofFrame (joint : Federation.Frame) : Frame :=
  { entity := joint.entity
    keys := joint.keys
    hints := joint.untried
    nextHint := 0
    vouching := joint.vouching
    remaining := joint.allowance.map Allowance.remaining
    limit := joint.allowance.map Allowance.bound
    below := joint.below }

lemma represents_ofFrame (joint : Federation.Frame) : (ofFrame joint).Represents joint :=
  ⟨rfl, rfl, rfl, rfl, rfl, rfl, rfl⟩

lemma represents_ofLeaf (leaf : Statement) :
    (ofLeaf leaf).Represents (Federation.Frame.ofLeaf leaf) := by
  have fields : leaf.maxPathLength =
      (Allowance.tighten none leaf.maxPathLength).map Allowance.remaining ∧
      leaf.maxPathLength = (Allowance.tighten none leaf.maxPathLength).map Allowance.bound := by
    cases leaf.maxPathLength with
    | none => exact ⟨rfl, rfl⟩
    | some bound => exact ⟨rfl, rfl⟩
  exact ⟨rfl, rfl, rfl, rfl, fields.1, fields.2, rfl⟩

namespace Represents

lemma takeHint?_eq_none (represents : frame.Represents joint) (none_left : joint.untried = []) :
    frame.takeHint? = none := by
  have used_up := represents.untried_eq.trans none_left
  rw [takeHint?, List.getElem?_eq_none (List.drop_eq_nil_iff.mp used_up)]
  rfl

lemma takeHint?_eq_some (represents : frame.Represents joint)
    (some_left : joint.untried = hint :: untried) :
    frame.takeHint? = some (hint, frame.advanced) ∧
      frame.advanced.Represents (Search.taken joint untried) := by
  have left := represents.untried_eq.trans some_left
  have here : frame.hints[frame.nextHint]? = some hint := by
    rw [← List.head?_drop, left, List.head?_cons]
  have later : frame.hints.drop (frame.nextHint + 1) = untried := by
    rw [← List.tail_drop, left, List.tail_cons]
  refine ⟨by rw [takeHint?, here, Option.map_some], ?_⟩
  exact ⟨represents.entity_eq, represents.keys_eq, later, represents.vouching_eq,
    represents.remaining_eq, represents.limit_eq, represents.below_eq⟩

lemma tightened_eq (represents : frame.Represents joint) : frame.tightened bound =
    ((Allowance.tighten joint.allowance bound).map Allowance.remaining,
      (Allowance.tighten joint.allowance bound).map Allowance.bound) := by
  unfold tightened
  rw [represents.remaining_eq, represents.limit_eq]
  cases joint.allowance with
  | none =>
      cases bound with
      | none => rfl
      | some bound => rfl
  | some allowance =>
      cases bound with
      | none => rfl
      | some bound =>
          simp only [Option.map_some, Allowance.tighten]
          split
          · rfl
          · rfl

end Represents

end Frame

/-! ### One hint -/

/-- What remains of an admission if it does not carry what can be asked for again. -/
def Admission.ofAdmission : Federation.Admission → Admission
  | .anchor _ vouching => .anchor vouching
  | .superior frame => .superior (.ofFrame frame)

variable {top : Frame} {lower : List Frame} {top' : Federation.Frame}
  {lower' : List Federation.Frame} {hint : EntityId}

/-- A limit is there whenever a number is, so none has to be made up for it. -/
lemma spend_eq (entity : EntityId) (allowance : Option Allowance) :
    spend fallbacks entity (allowance.map Allowance.remaining) (allowance.map Allowance.bound) =
      (Allowance.spend entity allowance).map fun left => left.map Allowance.remaining := by
  rcases allowance with _ | ⟨_ | n, bound⟩
  · rfl
  · rfl
  · rfl

lemma bound_of_spend {entity : EntityId} {allowance left : Option Allowance}
    (spent : Allowance.spend entity allowance = .ok left) :
    left.map Allowance.bound = allowance.map Allowance.bound := by
  rcases allowance with _ | ⟨_ | n, bound⟩
  · cases spent
    rfl
  · cases spent
  · cases spent
    rfl

/-- **Examining a hint changes nothing but what is known**, and comes to the same as it does in a search. -/
theorem follows_examine (fallbacks : Fallbacks) (r : Resolver σ) (goal : Goal) (hint : EntityId)
    (deepest : Option (Nat × Failure)) (represents : top.Represents top')
    (entities : lower.map Frame.entity = lower'.map Federation.Frame.entity) :
    Follows (top :: lower) deepest (examine fallbacks r goal hint)
      (Search.attempt r goal top' lower' hint) Admission.ofAdmission := by
  have listed : (top :: lower).any (fun frame => frame.entity == hint) =
      (top' :: lower').any fun frame => frame.entity == hint := by
    have below : lower.any (fun frame => frame.entity == hint) =
        lower'.any fun frame => frame.entity == hint := by
      simpa [List.any_map, Function.comp_def] using
        congrArg (fun entities => entities.any (· == hint)) entities
    rw [List.any_cons, List.any_cons, represents.entity_eq, below]
  have length : (top :: lower).length = (top' :: lower').length := by
    simpa using congrArg List.length entities
  rw [Search.attempt_eq, Search.present]
  refine Follows.path ?_
  rw [listed, length]
  split
  · exact fun _ => rfl
  · by_cases free : (top' :: lower').length < goal.maxHops
    · rw [if_neg (Nat.not_le.mpr free), if_pos free]
      simp only [bind_assoc, pure_bind]
      refine (Follows.ask _).bind fun ⟨configuration, keys⟩ => ?_
      refine (Follows.check _).bind fun _ => (Follows.check _).bind fun _ => ?_
      refine Follows.path ?_
      dsimp only
      rw [represents.entity_eq]
      refine (Follows.ask _).bind fun vouching => ?_
      refine (Follows.check _).bind fun _ => (Follows.check _).bind fun _ => ?_
      rw [Federation.Frame.checkKeys, represents.keys_eq]
      cases vouching.keys.sharesKeyWith top'.keys with
      | false => exact fun _ => rfl
      | true =>
          rw [Federation.Frame.constrain, Query.judge_bind, represents.below_eq,
            represents.tightened_eq]
          show Follows _ _ _ (Resolver.judge (Federation.Frame.checkNames vouching top'.below) >>= _) _
          refine (Follows.check _).bind fun _ => ?_
          dsimp only
          split
          · exact Follows.pure rfl
          · rw [spend_eq]
            cases spent : Allowance.spend hint
                (Allowance.tighten top'.allowance vouching.maxPathLength) with
            | error failure => exact fun _ => rfl
            | ok left =>
                rw [← bound_of_spend spent]
                exact fun _ => rfl
    · rw [if_pos (Nat.not_lt.mp free), if_neg free]
      exact fun _ => rfl

end Walk

namespace Resolver

variable {r : Resolver σ} {goal : Goal} {configuration vouching : Statement} {known known' : Knowledge σ}

/-- Asking for what is remembered changes nothing. -/
lemma anchorConfiguration_of_remembered (remembered : known.anchorConfiguration = some configuration) :
    r.anchorConfiguration goal known = (.ok configuration, known) := by
  rw [anchorConfiguration, remembered]

/-- A search that reaches the anchor remembers its configuration. -/
lemma remembered_of_attempt {top : Frame} {lower : List Frame} {hint : EntityId}
    (h : Search.attempt r goal top lower hint known = (.ok (.anchor configuration vouching), known')) :
    known'.anchorConfiguration = some configuration := by
  obtain ⟨_, _, examined⟩ := Search.attempt_eq_ok_iff.mp h
  obtain ⟨found, keys, statement, mid, learns, _, fetched, _, _, _, leads⟩ :=
    answers_of_examine examined
  have kept : Query.Keeps (fun known => known.anchorConfiguration = some found)
      (r.fetchIssued hint top.entity keys) :=
    fetchIssued_keeps (fun _ _ => Query.Keeps.fetch fun _ _ remembered => remembered) _ _ _
  rcases leads with ⟨is_anchor, same⟩ | ⟨_, _, _, same⟩
  · cases same
    rw [learn, if_pos is_anchor] at learns
    obtain ⟨_, _, asked, returned⟩ := Query.bind_eq_ok_iff.mp learns
    obtain ⟨pair, rfl⟩ := Query.pure_eq_ok_iff.mp returned
    cases pair
    have here := kept _ (answers_of_anchorConfiguration asked).1
    rwa [fetched] at here
  · cases same

end Resolver

namespace Walk

variable {fallbacks : Fallbacks} {r : Resolver σ} {goal : Goal} {room : Nat}

/-! ### Steps -/

/-- The walk is where the search is. -/
structure Represents (walk : Walk σ) (s : Search σ room) : Prop where
  frames : List.Forall₂ Frame.Represents walk.frames s.frames
  knowledge_eq : walk.knowledge = s.knowledge
  deepest_eq : walk.deepest = s.deepest

/-- The moves lead to the same. -/
inductive Move.Represents : Move σ → Federation.Move σ room → Prop
  | onward {walk : Walk σ} {s : Search σ room} (represents : walk.Represents s) :
      Represents (.onward walk) (.onward s)
  | done {result : Except Failure (List Statement)} {walk : Walk σ} {s : Search σ room}
      (represents : walk.Represents s) : Represents (.done result walk) (.done result s)

variable {frames : List Frame} {frames' : List Federation.Frame}

/-- Fields that are equal frame by frame are equal for the whole path. -/
lemma map_eq_of_represents {α : Type} {f : Frame → α} {g : Federation.Frame → α}
    (represents : List.Forall₂ Frame.Represents frames frames')
    (same : ∀ frame joint, Frame.Represents frame joint → f frame = g joint) :
    frames.map f = frames'.map g := by
  induction represents with
  | nil => rfl
  | cons here later ih => rw [List.map_cons, List.map_cons, same _ _ here, ih]

lemma filterMap_vouching (represents : List.Forall₂ Frame.Represents frames frames') :
    frames.filterMap Frame.vouching = frames'.filterMap Federation.Frame.vouching := by
  have same := map_eq_of_represents represents fun _ _ same => same.vouching_eq
  simpa [List.filterMap_map, Function.comp_def] using congrArg (List.filterMap id) same

lemma represents_start (goal : Goal) (source : σ) (events : List Event) :
    (start goal source).Represents (Search.start goal ⟨source, none⟩ events) :=
  ⟨.cons (Frame.represents_ofLeaf goal.leaf) .nil, rfl, rfl⟩

variable {top : Frame} {lower : List Frame} {top' : Federation.Frame} {lower' : List Federation.Frame}
  {hint : EntityId} {untried : List EntityId} {known : Knowledge σ} {deepest : Option (Nat × Failure)}

/-- Whether the hint that is tried is still listed makes no difference to its fate. -/
lemma attempt_taken : Search.attempt r goal (Search.taken top' untried) lower' hint =
    Search.attempt r goal top' lower' hint :=
  rfl

/-- What the next step is, told from the fate of the next hint in the search. -/
def afterHint (frames : List Frame) (deepest : Option (Nat × Failure)) :
    Except Failure Federation.Admission × Knowledge σ → Move σ
  | (.ok (.anchor configuration vouching), known) =>
    .done (.ok (configuration :: vouching :: frames.filterMap Frame.vouching)) ⟨frames, known, deepest⟩
  | (.ok (.superior frame), known) => .onward ⟨.ofFrame frame :: frames, known, deepest⟩
  | (.error failure, known) =>
    .onward ⟨frames, known, Search.record deepest frames.length failure⟩

/-- The configuration of the anchor is not asked for again at the end. -/
lemma pathToAnchor_of_remembered {configuration vouching : Statement}
    (remembered : known.anchorConfiguration = some configuration) :
    pathToAnchor r goal vouching ⟨frames, known, deepest⟩ =
      (.ok (configuration :: vouching :: frames.filterMap Frame.vouching),
        ⟨frames, known, deepest⟩) := by
  have follows : Follows frames deepest (pathToAnchor r goal vouching)
      (r.anchorConfiguration goal >>= fun configuration => pure configuration)
      fun configuration => configuration :: vouching :: frames.filterMap Frame.vouching :=
    (Follows.ask _).bind fun _ => Follows.path (Follows.pure rfl)
  rw [bind_pure] at follows
  rw [follows known, Resolver.anchorConfiguration_of_remembered remembered]
  rfl

/-- **The fate of a hint is that in the search**, whatever the fallbacks are. -/
theorem step_of_hint (here : top.Represents top') (below : List.Forall₂ Frame.Represents lower lower')
    (some_left : top'.untried = hint :: untried) :
    step fallbacks r goal ⟨top :: lower, known, deepest⟩ =
      afterHint (top.advanced :: lower) deepest (Search.attempt r goal top' lower' hint known) := by
  obtain ⟨takes, rest⟩ := here.takeHint?_eq_some some_left
  have entities := map_eq_of_represents below fun _ _ same => same.entity_eq
  have examined := follows_examine fallbacks r goal hint deepest rest entities known
  rw [attempt_taken] at examined
  rw [step]
  simp only [takes, examined]
  cases attempted : Search.attempt r goal top' lower' hint known with
  | mk answer known' =>
      rcases answer with failure | ⟨configuration, vouching⟩ | frame
      · rfl
      · simp only [Except.map, Admission.ofAdmission,
          pathToAnchor_of_remembered (Resolver.remembered_of_attempt attempted)]
        rfl
      · rfl

/-- Nothing is used in place of something that is missing. -/
lemma step_eq_step {fallbacks' : Fallbacks} {walk : Walk σ} {s : Search σ goal.room}
    (represents : walk.Represents s) : step fallbacks' r goal walk = step fallbacks r goal walk := by
  obtain ⟨frames, knowledge, deepest⟩ := walk
  have alike := represents.frames
  cases frames with
  | nil => rfl
  | cons top lower =>
      obtain ⟨top', lower', here, below, _⟩ := List.forall₂_cons_left_iff.mp alike
      cases left : top'.untried with
      | nil =>
          rw [step, step]
          simp only [here.takeHint?_eq_none left]
      | cons hint untried => rw [step_of_hint here below left, step_of_hint here below left]

/-- **A step of a walk is a step of the search**, whatever the fallbacks are. -/
theorem represents_step (fallbacks : Fallbacks) (r : Resolver σ) {walk : Walk σ}
    {s : Search σ goal.room} (represents : walk.Represents s) :
    (step fallbacks r goal walk).Represents (Search.step r goal s) := by
  obtain ⟨frames, knowledge, deepest⟩ := walk
  obtain ⟨alike, rfl, rfl⟩ := represents
  dsimp only at alike
  have stepped := Search.stepped (r := r) s
  generalize Search.step r goal s = move at stepped
  cases stepped with
  | empty empty =>
      rw [empty] at alike
      cases alike
      exact .done ⟨empty ▸ .nil, rfl, rfl⟩
  | exhausted path none_left next_frames next_knowledge next_deepest =>
      rw [path] at alike
      obtain ⟨top, lower, here, below, rfl⟩ := List.forall₂_cons_right_iff.mp alike
      rw [step]
      simp only [here.takeHint?_eq_none none_left]
      exact .onward ⟨next_frames ▸ below, next_knowledge.symm, next_deepest.symm⟩
  | refused path some_left attempted next_frames next_deepest =>
      rw [path] at alike
      obtain ⟨top, lower, here, below, rfl⟩ := List.forall₂_cons_right_iff.mp alike
      have rest := (here.takeHint?_eq_some some_left).2
      rw [step_of_hint here below some_left, attempted]
      refine .onward ⟨next_frames ▸ .cons rest below, rfl, ?_⟩
      rw [next_deepest, ← below.length_eq]
      rfl
  | pushed path some_left attempted next_frames next_deepest =>
      rw [path] at alike
      obtain ⟨top, lower, here, below, rfl⟩ := List.forall₂_cons_right_iff.mp alike
      have rest := (here.takeHint?_eq_some some_left).2
      rw [step_of_hint here below some_left, attempted]
      exact .onward ⟨next_frames ▸ .cons (Frame.represents_ofFrame _) (.cons rest below), rfl,
        next_deepest.symm⟩
  | arrived path some_left attempted final_frames final_deepest =>
      rw [path] at alike
      obtain ⟨top, lower, here, below, rfl⟩ := List.forall₂_cons_right_iff.mp alike
      have rest := List.Forall₂.cons (here.takeHint?_eq_some some_left).2 below
      rw [step_of_hint here below some_left, attempted, Search.pathFrom, ← filterMap_vouching rest]
      exact .done ⟨final_frames ▸ rest, rfl, final_deepest.symm⟩

/-! ### Runs -/

/-- The states that a walk goes through. -/
def Reached (fallbacks : Fallbacks) (r : Resolver σ) (goal : Goal) (source : σ) (walk : Walk σ) : Prop :=
  Relation.ReflTransGen (fun before after => step fallbacks r goal before = .onward after)
    (start goal source) walk

variable {walk : Walk σ} {s : Search σ goal.room} {source : σ}

/-- A walk is where a search is. -/
lemma exists_represented (reached : Reached fallbacks r goal source walk) :
    ∃ s, Search.Reached r goal source s ∧ walk.Represents s := by
  induction reached with
  | refl => exact ⟨_, .refl, represents_start goal source _⟩
  | @tail before after _ went ih =>
      obtain ⟨s, reached, represents⟩ := ih
      have moves := represents_step fallbacks r represents
      rw [went] at moves
      cases step : Search.step r goal s with
      | done result final =>
          rw [step] at moves
          cases moves
      | onward next =>
          rw [step] at moves
          cases moves with
          | onward represents => exact ⟨next, .tail reached step, represents⟩

lemma represents_within (fallbacks : Fallbacks) (r : Resolver σ) (n : Nat)
    (represents : walk.Represents s) :
    (within fallbacks r goal n walk).Represents (Search.within r goal n s) := by
  induction n generalizing walk s with
  | zero => exact .onward represents
  | succ n ih =>
      have moves := represents_step fallbacks r represents
      rw [within, Search.within]
      generalize step fallbacks r goal walk = move, Search.step r goal s = move' at moves
      cases moves with
      | onward represents => exact ih represents
      | done represents => exact .done represents

end Walk

end Federation
