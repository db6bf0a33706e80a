import Federation.Proofs.Resolution.Steps

/-!
# What stands behind a path

A search keeps frames; what matters about them are the statements they were made from.  This file
says which statements those are and what each of them has been held against.

**Provenance.**  `Resolver.Issued` and `Resolver.Published` say where a statement comes from: which
served text it was read from and which keys verified that text.

**Links.**  A `Link` is a superior on a path with what it states about the entity below.
`Link.Binds` lists what ties it to that entity, `Climb` what every link below the anchor has passed,
and `Summit` adds the link of the anchor itself.

**The search.**  `Climb.Sound` is the invariant that ties the frames to such links.  Pushing, popping
and refusing keep it (`Climb.sound_of_stepped`), so whatever shape a search takes, the path it
returns is a `Summit` (`Climb.summit_of_run`).
-/

namespace Federation

variable {σ : Type}

/-! ### Provenance -/

/-- The fetcher has this raw statement to give, in one of its states. -/
def Resolver.Serves (r : Resolver σ) (issuer subject : EntityId) (raw : String) : Prop :=
  ∃ source, (r.fetcher issuer subject source).1 = .ok raw

/-- The statement of an issuer about a subject, from a served text that the keys verify. -/
def Resolver.Issued (r : Resolver σ) (keys : KeySet) (issuer subject : EntityId)
    (s : Statement) : Prop :=
  ∃ raw claims, r.Serves issuer subject raw ∧ r.verifier.verify raw keys = .ok claims ∧
    Statement.ofClaims claims = .ok s ∧ s.issuer = issuer ∧ s.subject = subject

/-- The configuration of an entity, from a served text that the keys verify which the text itself
lists before it is verified. -/
def Resolver.Published (r : Resolver σ) (entity : EntityId) (s : Statement) : Prop :=
  ∃ raw claims peeked unverified, r.Serves entity entity raw ∧ r.verifier.peek raw = .ok peeked ∧
    Statement.ofClaims peeked = .ok unverified ∧
    r.verifier.verify raw unverified.keys = .ok claims ∧ Statement.ofClaims claims = .ok s ∧
    s.issuer = entity ∧ s.subject = entity

/-- The statement is valid at a time and carries the claims it must carry (`Statement.current_iff`). -/
def Statement.Current (s : Statement) (now : Int) : Prop :=
  s.checkValidity now = .ok () ∧ s.checkRequired = .ok ()

/-- A current statement is in its validity window, has metadata if it is a configuration, and has every claim
that it declares critical. -/
lemma Statement.current_iff {s : Statement} {now : Int} : s.Current now ↔
    s.isValidAt now = true ∧ (s.isSelfIssued = true → s.hasMetadata = true) ∧
      ∀ claim ∈ s.critical, s.hasClaim claim = true := by
  rw [Current, s.isValidAt_iff, s.checkRequired_eq_ok_iff]

lemma Verifier.checkNames_eq_ok_iff {s : Statement} {issuer subject : EntityId} :
    Verifier.checkNames s issuer subject = .ok () ↔ s.issuer = issuer ∧ s.subject = subject := by
  unfold Verifier.checkNames
  split
  · rename_i names
    simp [names]
  · rename_i names
    simp [names]

lemma Verifier.readIssued_eq_ok_iff {v : Verifier} {issuer subject : EntityId} {keys : KeySet}
    {raw : String} {s : Statement} :
    v.readIssued issuer subject keys raw = .ok s ↔
      ∃ claims, v.verify raw keys = .ok claims ∧ Statement.ofClaims claims = .ok s ∧
        s.issuer = issuer ∧ s.subject = subject := by
  simp only [Verifier.readIssued, Except.bind_eq_ok_iff, Except.pure_eq_ok_iff]
  constructor
  · rintro ⟨claims, verified, s', read, ⟨⟩, names, rfl⟩
    exact ⟨claims, verified, read, Verifier.checkNames_eq_ok_iff.mp names⟩
  · rintro ⟨claims, verified, read, names⟩
    exact ⟨claims, verified, s, read, (), Verifier.checkNames_eq_ok_iff.mpr names, rfl⟩

/-! ### Links -/

/-- A superior on a path. -/
structure Link where
  /-- What the superior publishes about itself. -/
  configuration : Statement
  /-- What it states about the entity below. -/
  vouching : Statement

/-- The entity a link leads to. -/
def Link.entity (link : Link) : EntityId :=
  link.configuration.subject

/-- What ties a link to the configuration below it: the superior is one of the hints there, its
statement is about the entity there and was verified by `keys`, the statement lists one of the keys
there, and everything is current. -/
structure Link.Binds (r : Resolver σ) (goal : Goal) (keys : KeySet) (link : Link)
    (below : Statement) : Prop where
  hinted : link.entity ∈ below.hints
  issued : r.Issued keys link.entity below.subject link.vouching
  shares : link.vouching.keys.sharesKeyWith below.keys = true
  configuration_current : link.configuration.Current goal.now
  vouching_current : link.vouching.Current goal.now

/-- The configuration on top of a path, the top link first. -/
def Link.topOf (leaf : Statement) : List Link → Statement
  | [] => leaf
  | link :: _ => link.configuration

/-- The entities on a path, the top one first and the leaf last. -/
def Link.entities (leaf : Statement) (links : List Link) : List EntityId :=
  links.map Link.entity ++ [leaf.subject]

/-- A path from the leaf that has not reached the anchor.  Each superior is new on it and publishes
the keys that its statement about the entity below was verified by. -/
inductive Climb (r : Resolver σ) (goal : Goal) : List Link → Prop
  | leaf : Climb r goal []
  | superior {link : Link} {links : List Link} (climb : Climb r goal links)
      (fresh : link.entity ∉ Link.entities goal.leaf links)
      (other : link.entity ≠ goal.anchor)
      (published : r.Published link.entity link.configuration)
      (binds : link.Binds r goal link.configuration.keys (Link.topOf goal.leaf links)) :
      Climb r goal (link :: links)

/-- A path that ends at the anchor, whose statements were verified by the trusted keys. -/
structure Summit (r : Resolver σ) (goal : Goal) (link : Link) (links : List Link) : Prop where
  climb : Climb r goal links
  fresh : link.entity ∉ Link.entities goal.leaf links
  entity_eq : link.entity = goal.anchor
  configuration_issued : r.Issued goal.anchorKeys goal.anchor goal.anchor link.configuration
  binds : link.Binds r goal goal.anchorKeys (Link.topOf goal.leaf links)
  room : links.length + 1 < goal.maxHops

/-- The statements of a path that ends with a link, down to the one about the leaf. -/
def Link.statements (link : Link) (links : List Link) : List Statement :=
  link.configuration :: (link :: links).map Link.vouching

/-! ### Queries of the search -/

/-- If the configuration of the anchor is known, it is one that the trusted keys have verified. -/
def Resolver.AnchorTrusted (r : Resolver σ) (goal : Goal) (known : Knowledge σ) : Prop :=
  ∀ s, known.anchorConfiguration = some s →
    r.Issued goal.anchorKeys goal.anchor goal.anchor s

namespace Resolver

variable {r : Resolver σ} {goal : Goal} {known known' : Knowledge σ}

lemma serves_of_fetch {issuer subject : EntityId} {raw : String}
    (h : r.fetch issuer subject known = (.ok raw, known')) : r.Serves issuer subject raw := by
  have answered : (r.fetcher issuer subject known.source).1.mapError Failure.fetch = .ok raw :=
    congrArg Prod.fst h
  exact ⟨known.source, Except.mapError_eq_ok_iff.mp answered⟩

lemma issued_of_fetchIssued {issuer subject : EntityId} {keys : KeySet} {s : Statement}
    (h : r.fetchIssued issuer subject keys known = (.ok s, known')) :
    r.Issued keys issuer subject s := by
  obtain ⟨raw, mid, fetched, judged⟩ := Query.bind_eq_ok_iff.mp h
  obtain ⟨read, rfl⟩ := Query.judge_eq_ok_iff.mp judged
  obtain ⟨claims, verified, held⟩ := Verifier.readIssued_eq_ok_iff.mp read
  exact ⟨raw, claims, serves_of_fetch fetched, verified, held⟩

lemma published_of_fetchConfiguration {entity : EntityId} {s : Statement}
    (h : r.fetchConfiguration entity known = (.ok s, known')) : r.Published entity s := by
  obtain ⟨raw, mid, fetched, judged⟩ := Query.bind_eq_ok_iff.mp h
  obtain ⟨read, rfl⟩ := Query.judge_eq_ok_iff.mp judged
  simp only [Verifier.readConfiguration, Except.bind_eq_ok_iff] at read
  obtain ⟨peeked, peek, unverified, unread, read⟩ := read
  obtain ⟨claims, verified, held⟩ := Verifier.readIssued_eq_ok_iff.mp read
  exact ⟨raw, claims, peeked, unverified, serves_of_fetch fetched, peek, unread, verified, held⟩

/-- The anchor's configuration is remembered, or else fetched, and remembered from then on. -/
lemma answers_of_anchorConfiguration {s : Statement}
    (h : r.anchorConfiguration goal known = (.ok s, known')) :
    known'.anchorConfiguration = some s ∧
      (known.anchorConfiguration = some s ∨
        ∃ mid, r.fetchIssued goal.anchor goal.anchor goal.anchorKeys known = (.ok s, mid)) := by
  unfold anchorConfiguration at h
  split at h
  · rename_i configuration remembered
    cases h
    exact ⟨remembered, .inl remembered⟩
  · obtain ⟨configuration, mid, fetched, kept⟩ := Query.bind_eq_ok_iff.mp h
    obtain ⟨⟨⟩, mid', recalled, returned⟩ := Query.bind_eq_ok_iff.mp kept
    obtain ⟨rfl, rfl⟩ := Query.pure_eq_ok_iff.mp returned
    cases recalled
    exact ⟨rfl, .inr ⟨mid, fetched⟩⟩

/-- The anchor's configuration is trusted whether it is fetched or remembered. -/
lemma issued_of_anchorConfiguration {s : Statement} (trusted : r.AnchorTrusted goal known)
    (h : r.anchorConfiguration goal known = (.ok s, known')) :
    r.Issued goal.anchorKeys goal.anchor goal.anchor s := by
  obtain ⟨_, remembered | ⟨mid, fetched⟩⟩ := answers_of_anchorConfiguration h
  · exact trusted s remembered
  · exact issued_of_fetchIssued fetched

/-- What is learned of a hint: the configuration of the anchor is held against the trusted keys,
any other against its own. -/
lemma learned {hint : EntityId} {configuration : Statement} {keys : KeySet}
    (trusted : r.AnchorTrusted goal known)
    (h : r.learn goal hint known = (.ok (configuration, keys), known')) :
    hint = goal.anchor ∧ keys = goal.anchorKeys ∧
        r.Issued goal.anchorKeys goal.anchor goal.anchor configuration ∨
      hint ≠ goal.anchor ∧ keys = configuration.keys ∧ r.Published hint configuration := by
  unfold learn at h
  split at h
  · rename_i is_anchor
    obtain ⟨found, mid, fetched, returned⟩ := Query.bind_eq_ok_iff.mp h
    obtain ⟨pair, rfl⟩ := Query.pure_eq_ok_iff.mp returned
    cases pair
    exact .inl ⟨is_anchor, rfl, issued_of_anchorConfiguration trusted fetched⟩
  · rename_i other
    obtain ⟨found, mid, fetched, returned⟩ := Query.bind_eq_ok_iff.mp h
    obtain ⟨pair, rfl⟩ := Query.pure_eq_ok_iff.mp returned
    cases pair
    exact .inr ⟨other, rfl, published_of_fetchConfiguration fetched⟩

/-- What a superior and its statement have been held against before the hint is admitted. -/
structure Held (r : Resolver σ) (goal : Goal) (keys : KeySet) (top : Frame) (hint : EntityId)
    (configuration vouching : Statement) : Prop where
  configuration_current : configuration.Current goal.now
  issued : r.Issued keys hint top.entity vouching
  vouching_current : vouching.Current goal.now
  shares : vouching.keys.sharesKeyWith top.keys = true
  names : Frame.checkNames vouching top.below = .ok ()

/-- Where a hint of the top entity can lead. -/
inductive Admitted (r : Resolver σ) (goal : Goal) (top : Frame) (hint : EntityId) :
    Admission → Prop
  | anchor {configuration vouching : Statement} (hint_eq : hint = goal.anchor)
      (issued : r.Issued goal.anchorKeys goal.anchor goal.anchor configuration)
      (held : r.Held goal goal.anchorKeys top hint configuration vouching) :
      Admitted r goal top hint (.anchor configuration vouching)
  | superior {configuration vouching : Statement} {allowance : Option Allowance}
      (other : hint ≠ goal.anchor) (published : r.Published hint configuration)
      (held : r.Held goal configuration.keys top hint configuration vouching)
      (spent : Allowance.spend hint
        (Allowance.tighten top.allowance vouching.maxPathLength) = .ok allowance) :
      Admitted r goal top hint (.superior (top.onTopOf configuration vouching allowance hint))

lemma checkVouching_eq_ok_iff {top : Frame} {superior : EntityId} {s : Statement} {now : Int}
    {allowance : Option Allowance} :
    top.checkVouching superior s now = .ok allowance ↔
      s.Current now ∧ s.keys.sharesKeyWith top.keys = true ∧
        Frame.checkNames s top.below = .ok () ∧
        allowance = Allowance.tighten top.allowance s.maxPathLength := by
  simp only [Frame.checkVouching, Except.bind_eq_ok_iff, Statement.Current]
  cases s.keys.sharesKeyWith top.keys with
  | false =>
      constructor
      · rintro ⟨_, _, _, _, h⟩
        cases h
      · rintro ⟨_, h, _⟩
        cases h
  | true =>
      simp only [Bool.not_true, Bool.false_eq_true, if_false, Except.bind_eq_ok_iff,
        Except.pure_eq_ok_iff]
      constructor
      · rintro ⟨⟨⟩, valid, ⟨⟩, required, ⟨⟩, names, rfl⟩
        exact ⟨⟨valid, required⟩, trivial, names, rfl⟩
      · rintro ⟨⟨valid, required⟩, _, names, rfl⟩
        exact ⟨⟨⟩, valid, ⟨⟩, required, ⟨⟩, names, rfl⟩

/-- An admitted hint has answered for itself and for the top entity, and both answers have passed. -/
lemma answers_of_examine {top : Frame} {hint : EntityId} {admission : Admission}
    (h : r.examine goal top hint known = (.ok admission, known')) :
    ∃ configuration keys vouching mid,
      r.learn goal hint known = (.ok (configuration, keys), mid) ∧ configuration.Current goal.now ∧
      r.fetchIssued hint top.entity keys mid = (.ok vouching, known') ∧ vouching.Current goal.now ∧
      vouching.keys.sharesKeyWith top.keys = true ∧ Frame.checkNames vouching top.below = .ok () ∧
      (hint = goal.anchor ∧ admission = .anchor configuration vouching ∨
        hint ≠ goal.anchor ∧ ∃ allowance,
          Allowance.spend hint (Allowance.tighten top.allowance vouching.maxPathLength) =
              .ok allowance ∧
            admission = .superior (top.onTopOf configuration vouching allowance hint)) := by
  unfold examine at h
  obtain ⟨⟨configuration, keys⟩, mid, learns, h⟩ := Query.bind_eq_ok_iff.mp h
  obtain ⟨⟨⟩, _, judged, h⟩ := Query.bind_eq_ok_iff.mp h
  obtain ⟨valid, rfl⟩ := Query.judge_eq_ok_iff.mp judged
  obtain ⟨⟨⟩, _, judged', h⟩ := Query.bind_eq_ok_iff.mp h
  obtain ⟨required, rfl⟩ := Query.judge_eq_ok_iff.mp judged'
  obtain ⟨vouching, last, fetched, h⟩ := Query.bind_eq_ok_iff.mp h
  obtain ⟨allowance, _, judged'', h⟩ := Query.bind_eq_ok_iff.mp h
  obtain ⟨vouched, rfl⟩ := Query.judge_eq_ok_iff.mp judged''
  obtain ⟨current, shares, names, rfl⟩ := checkVouching_eq_ok_iff.mp vouched
  split at h
  · rename_i is_anchor
    obtain ⟨rfl, rfl⟩ := Query.pure_eq_ok_iff.mp h
    exact ⟨configuration, keys, vouching, mid, learns, ⟨valid, required⟩, fetched, current, shares,
      names, .inl ⟨is_anchor, rfl⟩⟩
  · rename_i other
    obtain ⟨left, _, judged, h⟩ := Query.bind_eq_ok_iff.mp h
    obtain ⟨spent, rfl⟩ := Query.judge_eq_ok_iff.mp judged
    obtain ⟨rfl, rfl⟩ := Query.pure_eq_ok_iff.mp h
    exact ⟨configuration, keys, vouching, mid, learns, ⟨valid, required⟩, fetched, current, shares,
      names, .inr ⟨other, left, spent, rfl⟩⟩

/-- **A hint is admitted only after every check.** -/
theorem admitted_of_examine {top : Frame} {hint : EntityId} {admission : Admission}
    (trusted : r.AnchorTrusted goal known)
    (h : r.examine goal top hint known = (.ok admission, known')) :
    r.Admitted goal top hint admission := by
  obtain ⟨configuration, keys, vouching, _, learns, valid, fetched, current, shares, names, leads⟩ :=
    answers_of_examine h
  have held : r.Held goal keys top hint configuration vouching :=
    ⟨valid, issued_of_fetchIssued fetched, current, shares, names⟩
  rcases learned trusted learns with ⟨is_anchor, rfl, own⟩ | ⟨other, rfl, published⟩
  · rcases leads with ⟨_, rfl⟩ | ⟨other, _⟩
    · exact .anchor is_anchor own held
    · exact absurd is_anchor other
  · rcases leads with ⟨is_anchor, _⟩ | ⟨_, allowance, spent, rfl⟩
    · exact absurd is_anchor other
    · exact .superior other published held spent

/-- What is remembered of the anchor after a hint has been looked at is still trusted, whether the
hint was admitted or not. -/
lemma anchorTrusted_of_examine (top : Frame) (hint : EntityId) :
    Query.Keeps (r.AnchorTrusted goal) (r.examine goal top hint) := by
  have fetching : ∀ issuer subject, Query.Keeps (r.AnchorTrusted goal) (r.fetch issuer subject) :=
    fun _ _ => Query.Keeps.fetch fun _ _ trusted => trusted
  refine examine_keeps fetching ?_ top hint
  intro known trusted
  unfold anchorConfiguration
  split
  · exact trusted
  · refine Query.Keeps.bind (fetchIssued_keeps fetching _ _ _) ?_ known trusted
    intro configuration known' _ mid fetched _ s holds
    cases holds
    exact issued_of_fetchIssued fetched

end Resolver

/-! ### The search -/

/-- The frame of an entity with this configuration, whose statement about the entity below it is
`vouching`. -/
structure Frame.Stands (frame : Frame) (configuration : Statement)
    (vouching : Option Statement) : Prop where
  entity_eq : frame.entity = configuration.subject
  keys_eq : frame.keys = configuration.keys
  untried_subset : frame.untried ⊆ configuration.hints
  vouching_eq : frame.vouching = vouching

/-- The frames of a path, the top one first. -/
def Link.Framed (leaf : Statement) : List Link → List Frame → Prop
  | [], [frame] => frame.Stands leaf none
  | link :: links, frame :: lower =>
    frame.Stands link.configuration (some link.vouching) ∧ Framed leaf links lower
  | _, _ => False

namespace Link.Framed

variable {leaf : Statement} {links : List Link} {top : Frame} {lower : List Frame}

/-- Without links there is the frame of the leaf alone. -/
lemma alone {frames : List Frame} (h : Framed leaf [] frames) :
    ∃ frame, frames = [frame] ∧ frame.Stands leaf none := by
  cases frames with
  | nil => exact h.elim
  | cons frame lower =>
      cases lower with
      | nil => exact ⟨frame, rfl, h⟩
      | cons _ _ => exact h.elim

lemma of_cons {link : Link} {frames : List Frame} (h : Framed leaf (link :: links) frames) :
    ∃ frame lower, frames = frame :: lower ∧
      frame.Stands link.configuration (some link.vouching) ∧ Framed leaf links lower := by
  cases frames with
  | nil => exact h.elim
  | cons frame lower => exact ⟨frame, lower, rfl, h⟩

/-- The top frame is that of the top configuration. -/
lemma top_stands (h : Framed leaf links (top :: lower)) :
    ∃ vouching, top.Stands (topOf leaf links) vouching := by
  cases links with
  | nil =>
      obtain ⟨frame, same, stands⟩ := h.alone
      cases same
      exact ⟨none, stands⟩
  | cons link links => exact ⟨some link.vouching, h.1⟩

/-- Hints that are used up do not matter. -/
lemma of_taken {hint : EntityId} {untried : List EntityId} (h : Framed leaf links (top :: lower))
    (some_left : top.untried = hint :: untried) :
    Framed leaf links (Search.taken top untried :: lower) := by
  have stands : ∀ {configuration vouching}, top.Stands configuration vouching →
      (Search.taken top untried).Stands configuration vouching := by
    rintro configuration vouching ⟨entity, keys, subset, vouched⟩
    refine ⟨entity, keys, fun id mem => subset ?_, vouched⟩
    rw [some_left]
    exact List.mem_cons_of_mem hint mem
  cases links with
  | nil =>
      obtain ⟨frame, same, of_leaf⟩ := h.alone
      cases same
      exact stands of_leaf
  | cons link links => exact ⟨stands h.1, h.2⟩

lemma map_entity {frames : List Frame} (h : Framed leaf links frames) :
    frames.map Frame.entity = entities leaf links := by
  induction links generalizing frames with
  | nil =>
      obtain ⟨frame, rfl, stands⟩ := h.alone
      simp [entities, stands.entity_eq]
  | cons link links ih =>
      obtain ⟨frame, lower, rfl, stands, below⟩ := h.of_cons
      rw [List.map_cons, ih below, stands.entity_eq]
      rfl

lemma filterMap_vouching {frames : List Frame} (h : Framed leaf links frames) :
    frames.filterMap Frame.vouching = links.map Link.vouching := by
  induction links generalizing frames with
  | nil =>
      obtain ⟨frame, rfl, stands⟩ := h.alone
      simp [stands.vouching_eq]
  | cons link links ih =>
      obtain ⟨frame, lower, rfl, stands, below⟩ := h.of_cons
      rw [List.filterMap_cons_some stands.vouching_eq, ih below, List.map_cons]

end Link.Framed

/-- A fresh path: the leaf alone. -/
lemma Link.framed_ofLeaf (leaf : Statement) : Framed leaf [] [Frame.ofLeaf leaf] :=
  ⟨rfl, rfl, List.Subset.refl _, rfl⟩

namespace Climb

variable {r : Resolver σ} {goal : Goal} {links : List Link} {top : Frame} {lower : List Frame}
  {hint : EntityId} {untried : List EntityId}

/-- The state of a search stands for links that have passed every check. -/
structure Sound (r : Resolver σ) (goal : Goal) (s : Search σ goal.room) : Prop where
  trusted : r.AnchorTrusted goal s.knowledge
  framed : s.frames = [] ∨ ∃ links, Climb r goal links ∧ Link.Framed goal.leaf links s.frames

lemma sound_start (source : σ) (events : List Event) :
    Sound r goal (Search.start goal ⟨source, none⟩ events) :=
  { trusted := by
      intro s holds
      cases holds
    framed := .inr ⟨[], .leaf, Link.framed_ofLeaf goal.leaf⟩ }

/-- What binds an admitted superior to the configuration on top of a path. -/
lemma binds_of_held {keys : KeySet} {configuration vouching : Statement}
    (framed : Link.Framed goal.leaf links (top :: lower)) (some_left : top.untried = hint :: untried)
    (entity : configuration.subject = hint)
    (held : r.Held goal keys top hint configuration vouching) :
    Link.Binds r goal keys ⟨configuration, vouching⟩ (Link.topOf goal.leaf links) := by
  obtain ⟨_, stands⟩ := framed.top_stands
  have hinted : hint ∈ (Link.topOf goal.leaf links).hints :=
    stands.untried_subset (some_left ▸ List.mem_cons_self)
  exact
    { hinted := by
        rw [Link.entity, entity]
        exact hinted
      issued := by
        rw [Link.entity, entity, ← stands.entity_eq]
        exact held.issued
      shares := stands.keys_eq ▸ held.shares
      configuration_current := held.configuration_current
      vouching_current := held.vouching_current }

/-- An admitted superior continues the path. -/
lemma push {frame : Frame} (climb : Climb r goal links)
    (framed : Link.Framed goal.leaf links (top :: lower)) (some_left : top.untried = hint :: untried)
    (fresh : hint ∉ (top :: lower).map Frame.entity)
    (admitted : r.Admitted goal top hint (.superior frame)) :
    ∃ links', Climb r goal links' ∧
      Link.Framed goal.leaf links' (frame :: Search.taken top untried :: lower) := by
  cases admitted with
  | @superior configuration vouching allowance other published held spent =>
      obtain ⟨_, _, _, _, _, _, _, _, _, _, entity⟩ := id published
      refine ⟨⟨configuration, vouching⟩ :: links, ?_, ?_⟩
      · refine .superior climb ?_ ?_ ?_ (binds_of_held framed some_left entity held)
        · rw [← framed.map_entity, Link.entity, entity]
          exact fresh
        · rw [Link.entity, entity]
          exact other
        · rw [Link.entity, entity]
          exact published
      · exact ⟨⟨entity.symm, rfl, List.Subset.refl _, rfl⟩, framed.of_taken some_left⟩

/-- **Steps keep the search sound.**  Pushing adds a link, popping removes one, and a refusal only
uses up a hint. -/
theorem sound_of_stepped {s next : Search σ goal.room} (sound : Sound r goal s)
    (stepped : Search.Stepped r goal s (.onward next)) : Sound r goal next := by
  have trusted : ∀ {top lower hint answer},
      Search.attempt r goal top lower hint s.knowledge = (answer, next.knowledge) →
      r.AnchorTrusted goal next.knowledge := by
    intro top lower hint answer attempted
    have kept := Search.attempt_keeps lower (Resolver.anchorTrusted_of_examine top hint)
      s.knowledge sound.trusted
    rwa [attempted] at kept
  have climbed : ∀ {top lower}, s.frames = top :: lower →
      ∃ links, Climb r goal links ∧ Link.Framed goal.leaf links (top :: lower) := by
    intro top lower frames
    rcases sound.framed with empty | framed
    · rw [frames] at empty
      cases empty
    · exact frames ▸ framed
  cases stepped with
  | @exhausted top lower _ frames none_left next_frames next_knowledge =>
      refine ⟨next_knowledge ▸ sound.trusted, ?_⟩
      obtain ⟨links, climb, framed⟩ := climbed frames
      rw [next_frames]
      cases climb with
      | leaf =>
          cases lower with
          | nil => exact .inl rfl
          | cons _ _ => exact framed.elim
      | superior climb => exact .inr ⟨_, climb, framed.2⟩
  | refused frames some_left attempted next_frames =>
      refine ⟨trusted attempted, .inr ?_⟩
      obtain ⟨links, climb, framed⟩ := climbed frames
      rw [next_frames]
      exact ⟨links, climb, framed.of_taken some_left⟩
  | pushed frames some_left attempted next_frames =>
      refine ⟨trusted attempted, .inr ?_⟩
      obtain ⟨links, climb, framed⟩ := climbed frames
      obtain ⟨fresh, _, examined⟩ := Search.attempt_eq_ok_iff.mp attempted
      rw [next_frames]
      exact climb.push framed some_left fresh
        (Resolver.admitted_of_examine sound.trusted examined)

/-- The step that reaches the anchor completes the path. -/
lemma summit_of_stepped {s final : Search σ goal.room} {path : List Statement}
    (sound : Sound r goal s) (stepped : Search.Stepped r goal s (.done (.ok path) final)) :
    ∃ link links, Summit r goal link links ∧ path = link.statements links := by
  cases stepped with
  | @arrived top lower hint untried configuration vouching _ frames some_left attempted =>
      rcases sound.framed with empty | ⟨links, climb, framed⟩
      · rw [frames] at empty
        cases empty
      rw [frames] at framed
      obtain ⟨fresh, room, examined⟩ := Search.attempt_eq_ok_iff.mp attempted
      have admitted := Resolver.admitted_of_examine sound.trusted examined
      cases admitted with
      | anchor hint_eq issued held =>
          obtain ⟨_, _, _, _, _, _, entity⟩ := id issued
          have entity' : configuration.subject = hint := entity.trans hint_eq.symm
          have binds := binds_of_held framed some_left entity' held
          refine ⟨⟨configuration, vouching⟩, links, ⟨climb, ?_, entity, issued, binds, ?_⟩, ?_⟩
          · rw [← framed.map_entity, Link.entity, entity']
            exact fresh
          · have length : (top :: lower).length = links.length + 1 := by
              simpa [Link.entities] using congrArg List.length framed.map_entity
            omega
          · rw [Search.pathFrom, (framed.of_taken some_left).filterMap_vouching]
            rfl

/-- **Whatever shape a search takes, the path it returns has passed every check.** -/
theorem summit_of_run {source : σ} {events : List Event} {path : List Statement}
    {final : Search σ goal.room}
    (h : Search.run r goal (Search.start goal ⟨source, none⟩ events) = (.ok path, final)) :
    ∃ link links, Summit r goal link links ∧ path = link.statements links := by
  obtain ⟨last, sound, stepped⟩ := Search.run_invariant h (sound_start source events)
    fun _ _ sound stepped => sound_of_stepped sound stepped
  exact summit_of_stepped sound stepped

end Climb

end Federation
