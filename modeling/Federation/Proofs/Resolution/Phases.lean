import Federation.Proofs.Failures
import Federation.Proofs.Resolution.Bounds
import Federation.Proofs.Resolution.Table
import Mathlib.Data.List.Chain

/-!
# Phases follow each other as they may

A resolution records every passage from one phase to another.  Nothing checks that a passage is
allowed when it is made, and a failure whose phase may not follow is not recorded at all.  This file
says that neither matters: under a plain verifier every passage is allowed, and every failure has a
phase that may follow the one it occurs in.

**Following the record.**  `Phase.follow` reads the record from a phase on and gives the phase reached,
if all passages are allowed.

**The search.**  Whatever comes of a hint, its failure may end the search
(`Search.attempt_failsOnly`); so may the failure that is kept, and the search records no passage
(`Search.Phased`).

**The policies.**  Their treatment fails with policy conflicts only, because the statements of a path are
linked and always form a chain (`Summit.linked`).

**The theorem.**  `Outcome.Phased` collects what holds of a record; `Resolver.phased_of_resolve` proves
that it does.
-/

namespace Federation

open Federation.Except (FailsOnly)

/-! ### Following the record -/

namespace Phase

/-- The phase after an event.  A passage must begin in the phase reached and be allowed. -/
def move (phase : Phase) : Event → Option Phase
  | .passed before after =>
    if before = phase ∧ phase.canBecome after = true then some after else none
  | _ => some phase

/-- The phase after some events. -/
def follow (phase : Phase) (events : List Event) : Option Phase :=
  events.foldlM move phase

lemma follow_append (phase : Phase) (earlier later : List Event) :
    phase.follow (earlier ++ later) = (phase.follow earlier).bind (follow · later) :=
  List.foldlM_append

lemma follow_trans {first second third : Phase} {earlier later : List Event}
    (to_second : first.follow earlier = some second) (to_third : second.follow later = some third) :
    first.follow (earlier ++ later) = some third := by
  rw [follow_append, to_second]
  exact to_third

lemma follow_passed {before after : Phase} (allowed : before.canBecome after = true) :
    before.follow [.passed before after] = some after := by
  simp [follow, move, allowed]

/-- No phase follows a terminal one. -/
lemma isTerminal_of_canBecome {before after : Phase} (allowed : before.canBecome after = true) :
    before.isTerminal = false := by
  cases before with
  | start => rfl
  | resolving => rfl
  | anchorReached => rfl
  | policyMerging => rfl
  | policyApplying => rfl
  | _ => cases allowed

/-- Every passage of a record that can be followed is allowed. -/
lemma canBecome_of_follow {first last before after : Phase} {events : List Event}
    (followed : first.follow events = some last) (mem : Event.passed before after ∈ events) :
    before.canBecome after = true := by
  induction events generalizing first with
  | nil => cases mem
  | cons event rest ih =>
      rw [follow, List.foldlM_cons] at followed
      obtain ⟨next, moved, followed⟩ := Option.bind_eq_some_iff.mp followed
      rcases List.mem_cons.mp mem with rfl | mem
      · by_cases allowed : before = first ∧ first.canBecome after = true
        · rw [allowed.1]
          exact allowed.2
        · rw [move, if_neg allowed] at moved
          cases moved
      · exact ih followed mem

end Phase

/-- How a record ends: in `resolved` after a success, after a failure with the passage into its phase. -/
def Phase.Ends {α : Type} (first : Phase) (events : List Event) : Except Failure α → Prop
  | .ok _ => first.follow events = some .resolved
  | .error failure => ∃ earlier before, events = earlier ++ [.passed before failure.phase] ∧
      first.follow earlier = some before ∧ before.canBecome failure.phase = true

namespace Phase.Ends

variable {α : Type} {first phase : Phase} {earlier events : List Event} {result : Except Failure α}

/-- What comes before does not change how a record ends. -/
lemma after (begun : first.follow earlier = some phase) (ends : phase.Ends events result) :
    first.Ends (earlier ++ events) result := by
  cases result with
  | ok a => exact Phase.follow_trans begun ends
  | error failure =>
      obtain ⟨between, before, rfl, followed, allowed⟩ := ends
      exact ⟨earlier ++ between, before, by rw [List.append_assoc],
        Phase.follow_trans begun followed, allowed⟩

/-- A failure whose phase may follow is recorded. -/
lemma failIn {failure : Failure} (allowed : phase.canBecome failure.phase = true) :
    phase.Ends (Resolver.failIn phase failure) (.error failure : Except Failure α) := by
  rw [Resolver.failIn, if_pos allowed]
  exact ⟨[], phase, rfl, rfl, allowed⟩

end Phase.Ends

/-! ### The search -/

/-- The failure may end the search for the anchor. -/
def Failure.EndsSearch (failure : Failure) : Prop :=
  Phase.resolving.canBecome failure.phase = true

lemma Failure.IsPlain.endsSearch {failure : Failure} (plain : failure.IsPlain) :
    failure.EndsSearch := by
  cases failure with
  | malformed detail => rfl
  | badSignature detail => rfl
  | invalidKey detail => rfl
  | _ => exact plain.elim

lemma Statement.checkValidity_failsOnly (s : Statement) (now : Int) :
    FailsOnly Failure.EndsSearch (s.checkValidity now) := by
  unfold checkValidity
  split
  · exact .error rfl
  · split
    · exact .error rfl
    · exact .ok _

lemma Statement.checkRequired_failsOnly (s : Statement) :
    FailsOnly Failure.EndsSearch s.checkRequired := by
  unfold checkRequired
  split
  · exact .error rfl
  · split
    · exact .error rfl
    · exact .ok _

lemma Frame.checkVouching_failsOnly (top : Frame) (superior : EntityId) (s : Statement) (now : Int) :
    FailsOnly Failure.EndsSearch (top.checkVouching superior s now) := by
  refine (s.checkValidity_failsOnly now).bind fun _ => s.checkRequired_failsOnly.bind fun _ => ?_
  split
  · exact .error rfl
  · refine FailsOnly.bind ?_ fun _ => .ok _
    unfold checkNames
    split
    · exact .ok _
    · exact .forM _ fun entity => .mapError fun _ => rfl

lemma Allowance.spend_failsOnly (entity : EntityId) (allowance : Option Allowance) :
    FailsOnly Failure.EndsSearch (spend entity allowance) := by
  unfold spend
  split
  · exact .ok _
  · exact .error rfl
  · exact .ok _

namespace Verifier.Plain

variable {v : Verifier}

lemma readIssued (plain : v.Plain) (issuer subject : EntityId) (keys : KeySet) (raw : String) :
    FailsOnly Failure.EndsSearch (v.readIssued issuer subject keys raw) := by
  refine ((plain.verify raw keys).mono fun _ => Failure.IsPlain.endsSearch).bind fun claims => ?_
  refine ((Statement.ofClaims_failsOnly claims).mono fun _ malformed =>
    malformed.isPlain.endsSearch).bind fun s => ?_
  refine FailsOnly.bind ?_ fun _ => .ok _
  unfold Verifier.checkNames
  split
  · exact .ok _
  · exact .error rfl

lemma readConfiguration (plain : v.Plain) (entity : EntityId) (raw : String) :
    FailsOnly Failure.EndsSearch (v.readConfiguration entity raw) := by
  refine ((plain.peek raw).mono fun _ => Failure.IsPlain.endsSearch).bind fun claims => ?_
  exact ((Statement.ofClaims_failsOnly claims).mono fun _ malformed =>
    malformed.isPlain.endsSearch).bind fun s => plain.readIssued entity entity s.keys raw

end Verifier.Plain

variable {σ : Type} {r : Resolver σ} {goal : Goal}

/-- The query succeeds, or fails in one of certain ways. -/
def Query.FailsOnly {α : Type} (P : Failure → Prop) (q : Query σ α) : Prop :=
  ∀ known, Except.FailsOnly P (q known).1

namespace Query.FailsOnly

variable {α β : Type} {P : Failure → Prop}

lemma judge {verdict : Except Failure α} (only : Except.FailsOnly P verdict) :
    FailsOnly P (Resolver.judge verdict : Query σ α) :=
  fun _ => only

lemma pure (a : α) : FailsOnly P (Pure.pure a : Query σ α) :=
  fun _ => .ok a

lemma bind {x : Query σ α} {f : α → Query σ β} (first : FailsOnly P x)
    (second : ∀ a, FailsOnly P (f a)) : FailsOnly P (x >>= f) := by
  intro known
  rw [bind_apply]
  cases answered : x known with
  | mk answer mid =>
      cases answer with
      | error e => exact .error (first known e (by rw [answered]))
      | ok a => exact second a mid

end Query.FailsOnly

namespace Resolver

lemma fetch_failsOnly (r : Resolver σ) (issuer subject : EntityId) :
    Query.FailsOnly Failure.EndsSearch (r.fetch issuer subject) :=
  fun _ => .mapError fun _ => rfl

lemma fetchIssued_failsOnly (plain : r.verifier.Plain) (issuer subject : EntityId) (keys : KeySet) :
    Query.FailsOnly Failure.EndsSearch (r.fetchIssued issuer subject keys) :=
  (r.fetch_failsOnly issuer subject).bind fun raw =>
    .judge (plain.readIssued issuer subject keys raw)

lemma fetchConfiguration_failsOnly (plain : r.verifier.Plain) (entity : EntityId) :
    Query.FailsOnly Failure.EndsSearch (r.fetchConfiguration entity) :=
  (r.fetch_failsOnly entity entity).bind fun raw => .judge (plain.readConfiguration entity raw)

lemma anchorConfiguration_failsOnly (plain : r.verifier.Plain) :
    Query.FailsOnly Failure.EndsSearch (r.anchorConfiguration goal) := by
  intro known
  unfold anchorConfiguration
  split
  · exact .ok _
  · have fetched := fetchIssued_failsOnly plain goal.anchor goal.anchor goal.anchorKeys
    refine fetched.bind (fun configuration => Query.FailsOnly.bind ?_ fun _ => .pure _) known
    exact fun _ => .ok ()

lemma learn_failsOnly (plain : r.verifier.Plain) (hint : EntityId) :
    Query.FailsOnly Failure.EndsSearch (r.learn goal hint) := by
  unfold learn
  split
  · exact (anchorConfiguration_failsOnly plain).bind fun _ => .pure _
  · exact (fetchConfiguration_failsOnly plain hint).bind fun _ => .pure _

lemma examine_failsOnly (plain : r.verifier.Plain) (top : Frame) (hint : EntityId) :
    Query.FailsOnly Failure.EndsSearch (r.examine goal top hint) := by
  refine (learn_failsOnly plain hint).bind fun ⟨configuration, keys⟩ => ?_
  refine Query.FailsOnly.bind (.judge (configuration.checkValidity_failsOnly _)) fun _ => ?_
  refine Query.FailsOnly.bind (.judge configuration.checkRequired_failsOnly) fun _ => ?_
  refine (fetchIssued_failsOnly plain hint top.entity keys).bind fun vouching => ?_
  refine Query.FailsOnly.bind (.judge (top.checkVouching_failsOnly hint vouching _)) fun a => ?_
  split
  · exact .pure _
  · exact Query.FailsOnly.bind (.judge (Allowance.spend_failsOnly hint a)) fun _ => .pure _

end Resolver

namespace Search

/-- **Whatever comes of a hint, its failure may end the search.** -/
theorem attempt_failsOnly (plain : r.verifier.Plain) (top : Frame) (lower : List Frame)
    (hint : EntityId) : Query.FailsOnly Failure.EndsSearch (attempt r goal top lower hint) := by
  unfold attempt
  split
  · exact .judge (.error rfl)
  · split
    · exact Resolver.examine_failsOnly plain top hint
    · exact .judge (.error rfl)

/-- The search has recorded no passage, and the failure it keeps may end it. -/
structure Phased (s : Search σ goal.room) : Prop where
  follow_eq : Phase.start.follow s.events.reverse = some .resolving
  endsSearch : ∀ depth failure, s.deepest = some (depth, failure) → failure.EndsSearch

lemma phased_start (goal : Goal) (knowledge : Knowledge σ) :
    Phased (start goal knowledge [.passed .start .resolving]) where
  follow_eq := rfl
  endsSearch := by
    intro depth failure kept
    cases kept

/-- The failure that is kept is the old one or the new one. -/
lemma eq_of_record {deepest : Option (Nat × Failure)} {depth depth' : Nat}
    {failure failure' : Failure} (kept : record deepest depth failure = some (depth', failure')) :
    failure' = failure ∨ deepest = some (depth', failure') := by
  unfold record at kept
  split at kept
  · exact .inr kept
  · split at kept
    · cases kept
      exact .inl rfl
    · split at kept
      · cases kept
        exact .inl rfl
      · exact .inr kept

/-- Events that are no passages change nothing. -/
lemma follow_cons {phase : Phase} {event : Event} {events : List Event}
    (followed : Phase.start.follow events.reverse = some phase) (idle : phase.move event = some phase) :
    Phase.start.follow (event :: events).reverse = some phase := by
  rw [List.reverse_cons]
  refine Phase.follow_trans followed ?_
  rw [Phase.follow, List.foldlM_cons, idle]
  rfl

/-- **Steps keep the phase.** -/
theorem Phased.of_stepped {s next : Search σ goal.room} (plain : r.verifier.Plain)
    (phased : Phased s) (stepped : Stepped r goal s (.onward next)) : Phased next := by
  obtain ⟨followed, kept⟩ := phased
  cases stepped with
  | exhausted frames none_left next_frames next_knowledge next_deepest next_events =>
      refine ⟨?_, next_deepest ▸ kept⟩
      rw [next_events]
      exact follow_cons followed rfl
  | @refused top lower hint _ failure _ frames some_left attempted next_frames next_deepest
      next_events =>
      refine ⟨?_, fun depth failure' recorded => ?_⟩
      · rw [next_events]
        exact follow_cons (follow_cons followed rfl) rfl
      · rw [next_deepest] at recorded
        rcases eq_of_record recorded with rfl | before
        · exact attempt_failsOnly plain top lower hint s.knowledge failure' (by rw [attempted])
        · exact kept depth failure' before
  | pushed frames some_left attempted next_frames next_deepest next_events =>
      refine ⟨?_, next_deepest ▸ kept⟩
      rw [next_events]
      exact follow_cons followed rfl

/-- When the search is over, the record still stands in `resolving`, and a failure may end it. -/
lemma phased_of_run {s final : Search σ goal.room} {result : Except Failure (List Statement)}
    (plain : r.verifier.Plain) (phased : Phased s) (h : run r goal s = (result, final)) :
    Phase.start.follow final.events.reverse = some .resolving ∧
      FailsOnly Failure.EndsSearch result := by
  obtain ⟨last, ⟨followed, kept⟩, stepped⟩ := run_invariant h phased fun _ _ phased stepped =>
    phased.of_stepped plain stepped
  cases stepped with
  | empty frames =>
      refine ⟨followed, .error ?_⟩
      cases deepest : final.deepest with
      | none => rfl
      | some found => exact kept found.1 found.2 deepest
  | arrived frames some_left attempted final_frames final_deepest final_events =>
      refine ⟨?_, .ok _⟩
      rw [final_events]
      exact follow_cons followed rfl

end Search

/-! ### The policies -/

namespace TrustChain

/-- Each statement is issued by the subject of the one before it. -/
def Linked (statements : List Statement) : Prop :=
  statements.IsChain fun above below => below.issuer = above.subject

lemma brokenLink?_eq_none {statements : List Statement} (linked : Linked statements) :
    brokenLink? statements = none := by
  induction linked with
  | nil => rfl
  | singleton s => rfl
  | cons_cons follows rest ih => rw [brokenLink?, if_pos follows, ih]

/-- Linked statements form a chain. -/
lemma exists_assemble {statements : List Statement} (linked : Linked statements)
    (some : statements ≠ []) (type : EntityType) (policy : Policy) (metadata : Members Json) :
    ∃ chain, assemble statements type policy metadata = .ok chain := by
  unfold assemble
  split
  · exact absurd rfl some
  · rw [brokenLink?_eq_none linked]
    exact ⟨_, rfl⟩

end TrustChain

/-- The statements on the way down from a link, each by the entity that the one above is about. -/
lemma Climb.linked {links : List Link} (climb : Climb r goal links)
    (self_issued : goal.leaf.isSelfIssued = true) :
    ∀ s : Statement, s.subject = (Link.topOf goal.leaf links).subject →
      TrustChain.Linked (s :: (links.map Link.vouching ++ [goal.leaf])) := by
  induction climb with
  | leaf =>
      intro s subject
      have issuer : goal.leaf.issuer = goal.leaf.subject := by
        simpa [Statement.isSelfIssued] using self_issued
      exact List.IsChain.cons_cons (issuer.trans subject.symm) (List.IsChain.singleton _)
  | superior climb fresh other published binds ih =>
      intro s subject
      obtain ⟨_, _, _, _, _, issuer, about⟩ := binds.issued
      exact List.IsChain.cons_cons (issuer.trans subject.symm) (ih _ about)

/-- The statements of a path are linked. -/
lemma Summit.linked {link : Link} {links : List Link} (summit : Summit r goal link links)
    (self_issued : goal.leaf.isSelfIssued = true) :
    TrustChain.Linked (link.statements links ++ [goal.leaf]) := by
  obtain ⟨_, _, _, _, _, issuer, about⟩ := summit.binds.issued
  exact List.IsChain.cons_cons issuer (summit.climb.linked self_issued link.vouching about)

namespace Resolver

/-- Policies fail only with conflicts, which may end their combination and their application. -/
lemma applyPolicy_failsOnly (goal : Goal) (policy : Policy) :
    FailsOnly (fun failure => failure.phase = .policyConflict) (applyPolicy goal policy) := by
  unfold applyPolicy
  split
  · exact .error rfl
  · exact .mapError fun _ => rfl

/-- **The treatment of the policies on linked statements ends as it should.** -/
theorem conclude_phased {statements : List Statement} (linked : TrustChain.Linked statements)
    (some : statements ≠ []) :
    Phase.anchorReached.Ends (conclude goal statements).2 (conclude goal statements).1 := by
  have merging : ∀ sources : List Statement, Phase.anchorReached.follow
      (.passed .anchorReached .policyMerging ::
        sources.map fun s => Event.combined s.issuer s.subject) = .some .policyMerging := by
    intro sources
    refine Phase.follow_trans (Phase.follow_passed rfl) ?_
    induction sources with
    | nil => rfl
    | cons s rest ih => exact ih
  unfold conclude
  dsimp only
  split
  · rename_i failure combined
    have conflict : failure.phase = .policyConflict :=
      FailsOnly.mapError (P := fun failure => failure.phase = .policyConflict) (fun _ => rfl) failure
        combined
    exact .after (merging _) (.failIn (by rw [conflict]; rfl))
  · rename_i policy combined
    have onward : Phase.policyMerging.follow [.passed .policyMerging .policyApplying] =
        Option.some .policyApplying := Phase.follow_passed rfl
    have applying := Phase.follow_trans (merging
      (Statement.policySources goal.entityType statements.dropLast)) onward
    split
    · rename_i failure applied
      have conflict := applyPolicy_failsOnly goal policy failure applied
      exact .after applying (.failIn (by rw [conflict]; rfl))
    · rename_i metadata applied
      obtain ⟨chain, assembled⟩ :=
        TrustChain.exists_assemble linked some goal.entityType policy metadata
      rw [assembled]
      exact Phase.follow_trans applying (Phase.follow_passed rfl)

end Resolver

/-! ### The theorem -/

/-- What holds of the record of a resolution. -/
structure Outcome.Phased (outcome : Outcome σ) : Prop where
  /-- Every passage is allowed and leaves no terminal phase. -/
  allowed : ∀ before after, .passed before after ∈ outcome.events →
    before.canBecome after = true ∧ before.isTerminal = false
  /-- A chain is returned in `resolved`. -/
  resolved : ∀ chain, outcome.result = .ok chain →
    Phase.start.follow outcome.events = some .resolved
  /-- A failure is returned in its phase, and the passage into that phase is the last event; it is
  allowed where it is made. -/
  failed : ∀ failure, outcome.result = .error failure →
    Phase.start.follow outcome.events = some failure.phase ∧
      ∃ earlier before, outcome.events = earlier ++ [.passed before failure.phase] ∧
        Phase.start.follow earlier = some before ∧ before.canBecome failure.phase = true

lemma Outcome.phased_of_ends {outcome : Outcome σ}
    (ends : Phase.start.Ends outcome.events outcome.result) : outcome.Phased := by
  obtain ⟨result, events, source⟩ := outcome
  have allowed : ∀ {last : Phase}, Phase.start.follow events = some last →
      ∀ before after, .passed before after ∈ events →
        before.canBecome after = true ∧ before.isTerminal = false := by
    intro last followed before after mem
    have allowed := Phase.canBecome_of_follow followed mem
    exact ⟨allowed, Phase.isTerminal_of_canBecome allowed⟩
  cases result with
  | ok chain =>
      exact
        { allowed := allowed ends
          resolved := fun _ _ => ends
          failed := fun failure returned => by cases returned }
  | error failure =>
      obtain ⟨earlier, before, same, followed, may_follow⟩ := id ends
      have reached : Phase.start.follow events = some failure.phase := by
        rw [show events = _ from same]
        exact Phase.follow_trans followed (Phase.follow_passed may_follow)
      refine
        { allowed := allowed reached
          resolved := fun chain returned => by cases returned
          failed := fun failure' returned => ?_ }
      cases returned
      exact ⟨reached, ends⟩

namespace Resolver

lemma ends_of_giveUp {failure : Failure} {events : List Event} {source : σ}
    (begun : Phase.start.follow events = some .resolving) (may_end : failure.EndsSearch) :
    Phase.start.Ends (giveUp failure events source).events (giveUp failure events source).result :=
  .after begun (.failIn may_end)

lemma ends_of_arrive {statements : List Statement} {events : List Event} {source : σ}
    (begun : Phase.start.follow events = some .resolving) (linked : TrustChain.Linked statements)
    (some : statements ≠ []) :
    Phase.start.Ends (arrive goal statements events source).events
      (arrive goal statements events source).result := by
  have arrived : Phase.start.follow (events ++
      [.passed .resolving .anchorReached, .reached statements.length]) = .some .anchorReached :=
    Phase.follow_trans begun rfl
  exact .after arrived (conclude_phased linked some)

/-- **The phases are respected.**  The Ed25519 verifier is plain, and under every plain verifier a
resolution of a configuration makes only passages that are allowed, leaves no terminal phase, ends in
`resolved` with a chain and in the phase of its failure without one. -/
theorem phased_of_resolve :
    Verifier.ed25519.Plain ∧ ∀ {σ : Type} (r : Resolver σ) (goal : Goal) (source : σ),
      r.verifier.Plain → goal.leaf.isSelfIssued = true → (r.resolve goal source).Phased := by
  refine ⟨Verifier.ed25519_plain, fun r goal source plain self_issued => ?_⟩
  apply Outcome.phased_of_ends
  have begun : Phase.start.follow [.passed .start .resolving] = some .resolving :=
    Phase.follow_passed rfl
  unfold resolve
  dsimp only
  rw [if_neg (by simp [self_issued])]
  split
  · rename_i failure checked
    have may_end : FailsOnly Failure.EndsSearch
        (do goal.leaf.checkValidity goal.now; goal.leaf.checkRequired) :=
      (goal.leaf.checkValidity_failsOnly goal.now).bind fun _ => goal.leaf.checkRequired_failsOnly
    exact ends_of_giveUp begun (may_end failure checked)
  · split
    · split
      · exact ends_of_arrive begun (List.IsChain.singleton _) (List.cons_ne_nil _ _)
      · exact ends_of_giveUp begun rfl
    · have phased := Search.phased_start goal ⟨source, none⟩
      split
      · rename_i path found
        obtain ⟨link, links, summit, rfl⟩ := Climb.summit_of_run (Prod.ext found rfl)
        obtain ⟨followed, _⟩ := Search.phased_of_run plain phased (Prod.ext found rfl)
        exact ends_of_arrive followed (summit.linked self_issued) (by simp)
      · rename_i failure found
        obtain ⟨followed, may_end⟩ := Search.phased_of_run plain phased (Prod.ext found rfl)
        exact ends_of_giveUp followed (may_end failure rfl)

end Resolver

lemma Verifier.ideal_plain (signatures : String → Option (String × Json)) :
    (ideal signatures).Plain where
  verify raw keys := by
    unfold ideal
    dsimp only
    split
    · exact .error trivial
    · split
      · exact .ok _
      · exact .error trivial
  peek raw := by
    unfold ideal
    dsimp only
    split
    · exact .error trivial
    · exact .ok _

/-- A resolution that succeeds, and the same one after the leaf has expired. -/
theorem Table.phased_underAuthority :
    ∃ leaf chain failure,
      Statement.ofClaims (configuration "https://party" "party" ["party"]
        ["https://authority"]).claims = .ok leaf ∧
      (underAuthority.resolver.resolve { terms "https://anchor" "root" with leaf } ()).result =
        .ok chain ∧
      Phase.start.follow (underAuthority.resolver.resolve
        { terms "https://anchor" "root" with leaf } ()).events = some .resolved ∧
      (underAuthority.resolver.resolve
        { terms "https://anchor" "root" with leaf, now := 100 } ()).result = .error failure ∧
      Phase.start.follow (underAuthority.resolver.resolve
        { terms "https://anchor" "root" with leaf, now := 100 } ()).events = some .expired := by
  have evaluated : ((Statement.ofClaims (configuration "https://party" "party" ["party"]
      ["https://authority"]).claims).toOption.bind fun leaf =>
        (Resolver.chainWithin 4 underAuthority.resolver
          { terms "https://anchor" "root" with leaf } ()).bind fun _ =>
        if leaf.isSelfIssued && leaf.expiresAt == 100 && leaf.issuedAt == 0 then some leaf
        else none).isSome = true := by
    decide +kernel
  obtain ⟨leaf, found⟩ := Option.isSome_iff_exists.mp evaluated
  obtain ⟨leaf', read, found⟩ := Option.bind_eq_some_iff.mp found
  obtain ⟨chain, found', found⟩ := Option.bind_eq_some_iff.mp found
  split at found
  · rename_i begun
    cases found
    simp only [Bool.and_eq_true, beq_iff_eq] at begun
    obtain ⟨⟨self_issued, expires⟩, issued⟩ := begun
    have plain : underAuthority.resolver.verifier.Plain := Verifier.ideal_plain _
    have resolved := (Resolver.resolve_of_chainWithin found').2
    have expired : (underAuthority.resolver.resolve
        { terms "https://anchor" "root" with leaf, now := 100 } ()).result =
          .error (.expired leaf.issuer leaf.expiresAt 100) := by
      simp [Resolver.resolve, self_issued, Statement.checkValidity, expires, issued]
      rfl
    exact ⟨leaf, chain, _, Except.toOption_eq_some_iff.mp read, resolved,
      (Resolver.phased_of_resolve.2 _ _ () plain self_issued).resolved chain resolved, expired,
      ((Resolver.phased_of_resolve.2 _ _ () plain self_issued).failed _ expired).1⟩
  · cases found

end Federation
