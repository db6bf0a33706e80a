import Federation.Proofs.Resolution.Soundness

/-!
# How the constraints of a path are kept

The statements on a path may bound the number of entities between their subject and the anchor, and
may restrict the names of the entities below their subject.  A frame does not keep the statements for
this: it keeps one number for all bounds, and a list of the names below.

**Paths.**  `EntityId.above` and `EntityId.below` are the two sides of an entity on a path, top first.
A `PathBound` is a bound of a statement with the number of entities that count for it so far.

**Allowances.**  `Allowance.Exact` says that an allowance is the least of what bounds leave.
`Allowance.exact_tighten` and `Allowance.exact_of_spend` are its two steps, and
`Allowance.spend_eq_error_iff` says when there is nothing left to spend.

**Names.**  `Statement.Admits` reads the verdict of a statement on a name.

**Frames.**  `Frame.Tied` ties the statements on a path to its entities, and `Frame.Accounts` says that
what the top frame keeps is right.  `Frame.Accounts.push` is the step for a new entity, and
`Climb.accounted_of_stepped` carries the invariant through the search.
-/

namespace Federation

variable {σ : Type}

/-! ### Paths -/

namespace EntityId

variable {entity other : EntityId} {path : List EntityId}

/-- The entities above one on a path, top first. -/
def above (entity : EntityId) (path : List EntityId) : List EntityId :=
  path.takeWhile fun other => other != entity

/-- The entities below one on a path, top first. -/
def below (entity : EntityId) (path : List EntityId) : List EntityId :=
  (path.dropWhile fun other => other != entity).tail

@[simp] lemma above_cons_self : entity.above (entity :: path) = [] := by
  simp [above]

lemma above_cons_of_ne (differs : other ≠ entity) :
    entity.above (other :: path) = other :: entity.above path := by
  simp [above, differs]

@[simp] lemma below_cons_self : entity.below (entity :: path) = path := by
  simp [below]

lemma below_cons_of_ne (differs : other ≠ entity) :
    entity.below (other :: path) = entity.below path := by
  simp [below, differs]

end EntityId

/-- One of the statements has the bound `max`, and of the entities on the path `counted` are above its
subject. -/
def PathBound (path : List EntityId) (statements : List Statement) (counted max : Nat) : Prop :=
  ∃ s ∈ statements, s.maxPathLength = some max ∧ (s.subject.above path).length = counted

namespace PathBound

variable {path : List EntityId} {statements : List Statement} {s : Statement} {entity : EntityId}
  {counted max : Nat}

/-- A statement about the top entity starts with nothing to count. -/
lemma cons_top_iff :
    PathBound (s.subject :: path) (s :: statements) counted max ↔
      counted = 0 ∧ s.maxPathLength = some max ∨
        PathBound (s.subject :: path) statements counted max := by
  constructor
  · rintro ⟨other, mem, bound, counts⟩
    rcases List.mem_cons.mp mem with rfl | mem
    · rw [EntityId.above_cons_self, List.length_nil] at counts
      exact .inl ⟨counts.symm, bound⟩
    · exact .inr ⟨other, mem, bound, counts⟩
  · rintro (⟨rfl, bound⟩ | ⟨other, mem, bound, counts⟩)
    · exact ⟨s, List.mem_cons_self, bound, by simp⟩
    · exact ⟨other, List.mem_cons_of_mem s mem, bound, counts⟩

/-- A further entity on top counts for every statement. -/
lemma cons_entity_iff (fresh : ∀ s ∈ statements, entity ≠ s.subject) :
    PathBound (entity :: path) statements counted max ↔
      ∃ before, counted = before + 1 ∧ PathBound path statements before max := by
  constructor
  · rintro ⟨s, mem, bound, counts⟩
    rw [EntityId.above_cons_of_ne (fresh s mem), List.length_cons] at counts
    exact ⟨_, counts.symm, s, mem, bound, rfl⟩
  · rintro ⟨before, rfl, s, mem, bound, rfl⟩
    exact ⟨s, mem, bound, by rw [EntityId.above_cons_of_ne (fresh s mem), List.length_cons]⟩

end PathBound

/-! ### Allowances -/

namespace Allowance

variable {bound : Nat → Nat → Prop} {allowance left : Option Allowance} {limit : Option Nat}
  {entity : EntityId}

/-- What remains is the least that any bound leaves after what is counted for it, and the bound that is
kept is one that leaves no more.  Without bounds there is no allowance. -/
def Exact (bound : Nat → Nat → Prop) : Option Allowance → Prop
  | none => ∀ counted max, ¬ bound counted max
  | some a => (∀ counted max, bound counted max → counted + a.remaining ≤ max) ∧
      ∃ counted, bound counted a.bound ∧ counted + a.remaining = a.bound

lemma Exact.congr {bound' : Nat → Nat → Prop} (exact : Exact bound allowance)
    (same : ∀ counted max, bound' counted max ↔ bound counted max) : Exact bound' allowance := by
  have equal : bound' = bound := funext fun counted => funext fun max => propext (same counted max)
  exact equal ▸ exact

/-- A new bound, for which nothing is counted, is taken into account. -/
lemma exact_tighten (exact : Exact bound allowance) :
    Exact (fun counted max => counted = 0 ∧ limit = some max ∨ bound counted max)
      (tighten allowance limit) := by
  cases allowance with
  | none =>
      cases limit with
      | none =>
          rintro counted max (⟨_, absent⟩ | h)
          · cases absent
          · exact exact counted max h
      | some new =>
          refine ⟨?_, 0, .inl ⟨rfl, rfl⟩, Nat.zero_add new⟩
          rintro counted max (⟨rfl, same⟩ | h)
          · cases same
            exact Nat.le_of_eq (Nat.zero_add new)
          · exact absurd h (exact counted max)
  | some a =>
      obtain ⟨leaves, counted, reached, remaining⟩ := exact
      cases limit with
      | none =>
          refine ⟨?_, counted, .inr reached, remaining⟩
          rintro counted max (⟨_, absent⟩ | h)
          · cases absent
          · exact leaves counted max h
      | some new =>
          rw [tighten]
          split
          · rename_i lower
            refine ⟨?_, 0, .inl ⟨rfl, rfl⟩, Nat.zero_add new⟩
            rintro counted max (⟨rfl, same⟩ | h)
            · cases same
              exact Nat.le_of_eq (Nat.zero_add new)
            · have before := leaves counted max h
              dsimp only
              omega
          · rename_i not_lower
            refine ⟨?_, counted, .inr reached, remaining⟩
            rintro counted max (⟨rfl, same⟩ | h)
            · cases same
              omega
            · exact leaves counted max h

/-- What has been spent counts for every bound. -/
lemma exact_of_spend (exact : Exact bound allowance) (h : spend entity allowance = .ok left) :
    Exact (fun counted max => ∃ before, counted = before + 1 ∧ bound before max) left := by
  unfold spend at h
  split at h
  · cases h
    rintro counted max ⟨before, _, reached⟩
    exact exact before max reached
  · cases h
  · rename_i n kept
    cases h
    obtain ⟨leaves, counted, reached, remaining⟩ := exact
    dsimp only at leaves reached remaining
    refine ⟨?_, counted + 1, ⟨counted, rfl, reached⟩, by dsimp only; omega⟩
    rintro counted max ⟨before, rfl, reached⟩
    have before_left := leaves before max reached
    dsimp only
    omega

/-- A bound that is reported would be exceeded. -/
lemma reported_of_spend {failure : Failure} (exact : Exact bound allowance)
    (h : spend entity allowance = .error failure) :
    ∃ counted max, failure = .constraint (.pathTooLong entity max) ∧ bound counted max ∧
      max < counted + 1 := by
  unfold spend at h
  split at h
  · cases h
  · rename_i kept
    obtain ⟨_, counted, reached, remaining⟩ := exact
    dsimp only at reached remaining
    cases h
    exact ⟨counted, kept, rfl, reached, by omega⟩
  · cases h

end Allowance

/-! ### Names -/

/-- The constraints of the statement, if it has any, accept the name of the entity. -/
def Statement.Admits (s : Statement) (entity : EntityId) : Prop :=
  ∀ constraints, s.constraints = some constraints → constraints.checkNaming entity = .ok ()

namespace Frame

variable {s : Statement} {entities : List EntityId}

lemma checkNames_eq_ok_iff :
    checkNames s entities = .ok () ↔ ∀ entity ∈ entities, s.Admits entity := by
  unfold checkNames Statement.Admits
  cases s.constraints with
  | none => simp
  | some constraints =>
      rw [List.forM_eq_ok_iff]
      simp only [Except.mapError_eq_ok_iff, Option.some.injEq, forall_eq']

end Frame

/-! ### Frames -/

/-- The statements on a path, with the configuration of the leaf at the end. -/
def Frame.statements (leaf : Statement) (frames : List Frame) : List Statement :=
  frames.filterMap Frame.vouching ++ [leaf]

/-- The statements on a path are by its entities, each about the entity below, down to the leaf. -/
structure Frame.Tied (leaf : Statement) (frames : List Frame) : Prop where
  nodup : (frames.map Frame.entity).Nodup
  issuers : (frames.filterMap Frame.vouching).map Statement.issuer =
    (frames.map Frame.entity).dropLast
  subjects : (frames.filterMap Frame.vouching).map Statement.subject =
    (frames.map Frame.entity).tail
  ends : ∃ above, frames.map Frame.entity = above ++ [leaf.subject]

lemma Frame.Tied.subject_mem {leaf : Statement} {frames : List Frame} (tied : Tied leaf frames) :
    ∀ s ∈ statements leaf frames, s.subject ∈ frames.map Frame.entity := by
  intro s mem
  rcases List.mem_append.mp mem with mem | mem
  · have below : s.subject ∈ (frames.map Frame.entity).tail :=
      tied.subjects ▸ List.mem_map_of_mem mem
    exact List.mem_of_mem_tail below
  · obtain ⟨above, ends⟩ := tied.ends
    rw [ends, List.mem_singleton.mp mem]
    exact List.mem_append_right above (List.mem_singleton_self _)

/-- An entity that is new on a path is not the subject of a statement on it, nor of a further one about
the top entity. -/
lemma Frame.Tied.ne_subject {leaf vouching : Statement} {top : Frame} {lower : List Frame}
    {hint : EntityId} (tied : Tied leaf (top :: lower)) (subject : vouching.subject = top.entity)
    (fresh : hint ∉ (top :: lower).map Frame.entity) :
    ∀ s ∈ vouching :: statements leaf (top :: lower), hint ≠ s.subject := by
  intro s mem same
  refine fresh ?_
  rcases List.mem_cons.mp mem with rfl | mem
  · rw [same, subject]
    exact List.mem_cons_self
  · rw [same]
    exact tied.subject_mem s mem

/-- What the top frame of a path keeps is right. -/
structure Frame.Accounts (leaf : Statement) (top : Frame) (lower : List Frame) : Prop where
  /-- It knows the names below. -/
  below_eq : top.below = (lower.map Frame.entity).reverse
  /-- Its allowance is the least that any bound on the path leaves. -/
  allowance : Allowance.Exact
    (PathBound ((top :: lower).map Frame.entity) (statements leaf (top :: lower))) top.allowance
  /-- Every statement on the path admits the names below its subject. -/
  names : ∀ s ∈ statements leaf (top :: lower),
    ∀ entity ∈ s.subject.below ((top :: lower).map Frame.entity), s.Admits entity

namespace Frame.Accounts

variable {leaf configuration vouching : Statement} {top : Frame} {lower : List Frame}
  {hint : EntityId} {allowance : Option Allowance}

lemma ofLeaf (leaf : Statement) : Accounts leaf (Frame.ofLeaf leaf) [] where
  below_eq := rfl
  allowance := by
    have nothing : Allowance.Exact (PathBound [leaf.subject] []) none := by
      rintro counted max ⟨s, mem, _⟩
      cases mem
    exact (Allowance.exact_tighten nothing).congr fun _ _ => PathBound.cons_top_iff
  names := by
    intro s mem entity below
    cases List.mem_singleton.mp mem
    have nothing : leaf.subject.below [leaf.subject] = [] := EntityId.below_cons_self
    change entity ∈ leaf.subject.below [leaf.subject] at below
    rw [nothing] at below
    cases below

/-- Which hints are left does not matter. -/
lemma of_taken (accounts : Accounts leaf top lower) (untried : List EntityId) :
    Accounts leaf (Search.taken top untried) lower :=
  ⟨accounts.below_eq, accounts.allowance, accounts.names⟩

/-- The bound of a further statement about the top entity is taken into account. -/
lemma tightened (accounts : Accounts leaf top lower) (subject : vouching.subject = top.entity) :
    Allowance.Exact (PathBound ((top :: lower).map Frame.entity)
      (vouching :: statements leaf (top :: lower)))
      (Allowance.tighten top.allowance vouching.maxPathLength) := by
  refine (Allowance.exact_tighten accounts.allowance).congr fun _ _ => ?_
  rw [List.map_cons, ← subject]
  exact PathBound.cons_top_iff

/-- One more entity on the path counts for each of its statements. -/
lemma bound_iff (tied : Tied leaf (top :: lower)) (subject : vouching.subject = top.entity)
    (fresh : hint ∉ (top :: lower).map Frame.entity) {counted max : Nat} :
    PathBound (hint :: (top :: lower).map Frame.entity)
        (vouching :: statements leaf (top :: lower)) counted max ↔
      ∃ before, counted = before + 1 ∧ PathBound ((top :: lower).map Frame.entity)
        (vouching :: statements leaf (top :: lower)) before max :=
  PathBound.cons_entity_iff (tied.ne_subject subject fresh)

/-- A further statement that admits the names below its subject leaves every statement of the path
above it with such names only. -/
lemma names_cons (accounts : Accounts leaf top lower) (tied : Tied leaf (top :: lower))
    (subject : vouching.subject = top.entity) (fresh : hint ∉ (top :: lower).map Frame.entity)
    (admits : ∀ entity ∈ top.below, vouching.Admits entity) :
    ∀ s ∈ vouching :: statements leaf (top :: lower),
      ∀ entity ∈ s.subject.below (hint :: (top :: lower).map Frame.entity), s.Admits entity := by
  intro s mem entity below
  rw [EntityId.below_cons_of_ne (tied.ne_subject subject fresh s mem)] at below
  rcases List.mem_cons.mp mem with rfl | mem
  · rw [List.map_cons, subject, EntityId.below_cons_self] at below
    refine admits entity ?_
    rw [accounts.below_eq, List.mem_reverse]
    exact below
  · exact accounts.names s mem entity below

/-- **A superior that is put on top accounts for the path it is on.** -/
theorem push (accounts : Accounts leaf top lower) (tied : Tied leaf (top :: lower))
    (subject : vouching.subject = top.entity) (fresh : hint ∉ (top :: lower).map Frame.entity)
    (admits : ∀ entity ∈ top.below, vouching.Admits entity)
    (spent : Allowance.spend hint (Allowance.tighten top.allowance vouching.maxPathLength) =
      .ok allowance) :
    Accounts leaf (top.onTopOf configuration vouching allowance hint) (top :: lower) where
  below_eq := by
    rw [List.map_cons, List.reverse_cons, ← accounts.below_eq]
    rfl
  allowance := (Allowance.exact_of_spend (accounts.tightened subject) spent).congr fun _ _ =>
    bound_iff tied subject fresh
  names := accounts.names_cons tied subject fresh admits

end Frame.Accounts

/-! ### The search -/

/-- Every frame accounts for what is below it. -/
def Frame.Accounted (leaf : Statement) (frames : List Frame) : Prop :=
  ∀ top lower, top :: lower <:+ frames → Accounts leaf top lower

lemma Frame.accounted_cons {leaf : Statement} {top : Frame} {lower : List Frame}
    (accounts : Accounts leaf top lower) (accounted : Accounted leaf lower) :
    Accounted leaf (top :: lower) := by
  intro top' lower' suffix
  rcases List.suffix_cons_iff.mp suffix with same | suffix
  · cases same
    exact accounts
  · exact accounted top' lower' suffix

lemma Frame.accounted_ofLeaf (leaf : Statement) : Accounted leaf [Frame.ofLeaf leaf] := by
  refine accounted_cons (.ofLeaf leaf) fun top lower suffix => ?_
  cases List.suffix_nil.mp suffix

namespace Climb

variable {r : Resolver σ} {goal : Goal} {links : List Link} {s next : Search σ goal.room}
  {top : Frame} {lower : List Frame}

/-- Each superior speaks for itself. -/
lemma map_issuer (climb : Climb r goal links) :
    (links.map fun link => link.vouching.issuer) = links.map Link.entity := by
  refine List.map_congr_left (climb.forall_links fun _ binds => ?_)
  obtain ⟨_, _, _, _, _, issuer, _⟩ := binds.issued
  exact issuer

lemma Sound.tied (sound : Sound r goal s) (frames : s.frames = top :: lower) :
    Frame.Tied goal.leaf (top :: lower) := by
  rcases sound.framed with empty | ⟨links, climb, framed⟩
  · rw [frames] at empty
    cases empty
  · rw [frames] at framed
    refine
      { nodup := ?_
        issuers := ?_
        subjects := ?_
        ends := ⟨links.map Link.entity, framed.map_entity⟩ }
    · rw [framed.map_entity]
      exact climb.nodup
    · rw [framed.map_entity, framed.filterMap_vouching, List.map_map, Link.entities,
        List.dropLast_concat]
      exact climb.map_issuer
    · rw [framed.map_entity, framed.filterMap_vouching, List.map_map]
      exact climb.map_subject

/-- **Steps keep the accounts.**  Pushing makes one more, popping and refusing change none. -/
theorem accounted_of_stepped (sound : Sound r goal s)
    (accounted : Frame.Accounted goal.leaf s.frames)
    (stepped : Search.Stepped r goal s (.onward next)) :
    Frame.Accounted goal.leaf next.frames := by
  have kept : ∀ {top lower untried}, s.frames = top :: lower →
      Frame.Accounted goal.leaf (Search.taken top untried :: lower) := by
    intro top lower untried frames
    rw [frames] at accounted
    refine Frame.accounted_cons ?_ fun top' lower' suffix =>
      accounted top' lower' (suffix.trans (List.suffix_cons top lower))
    exact (accounted top lower List.suffix_rfl).of_taken untried
  cases stepped with
  | @exhausted top lower _ frames none_left next_frames =>
      intro top' lower' suffix
      rw [next_frames] at suffix
      rw [frames] at accounted
      exact accounted top' lower' (suffix.trans (List.suffix_cons top lower))
  | refused frames some_left attempted next_frames =>
      rw [next_frames]
      exact kept frames
  | @pushed top lower hint _ _ _ frames some_left attempted next_frames =>
      obtain ⟨fresh, _, examined⟩ := Search.attempt_eq_ok_iff.mp attempted
      rw [next_frames]
      refine Frame.accounted_cons ?_ (kept frames)
      cases Resolver.admitted_of_examine sound.trusted examined with
      | @superior configuration vouching allowance other published held spent =>
          obtain ⟨_, _, _, _, _, _, subject⟩ := held.issued
          have accounts : Frame.Accounts goal.leaf top lower := by
            rw [frames] at accounted
            exact accounted top lower List.suffix_rfl
          have pushed : Frame.Accounts goal.leaf
              (top.onTopOf configuration vouching allowance hint) (top :: lower) :=
            accounts.push (sound.tied frames) subject fresh
              (Frame.checkNames_eq_ok_iff.mp held.names) spent
          -- the hint that is used up is not among what a frame accounts for
          exact ⟨pushed.below_eq, pushed.allowance, pushed.names⟩

end Climb

end Federation
