import Federation.Proofs.Resolution.Phases
import Federation.Proofs.Resolution.Termination
import Federation.Proofs.Resolution.Walk

/-!
# The frame stack keeps its books

The frames of a walk hold several accounts of one path: who is on it, who is below, who vouches for whom, how
many more may follow.  They are kept one by one while frames are pushed and taken off, and they agree in every
state that is reached.  So what a walk would do if something were missing never matters.

**The stack of a search.**  The invariants of the search say what stands behind its frames
(`Climb.bottom_of_framed`, `Climb.vouching_of_framed`, `Climb.ne_anchor`).

**The books of a walk.**  `Walk.Consistent` is how they agree; they do because a walk is where a search is
(`Walk.consistent_of_reached`).  A refusal changes no frame but the one that has given the hint
(`Walk.step_of_refused`), and a path that is found is linked (`Walk.linked_of_within`).

**The theorem.**  `Walk.Safe` collects what never goes wrong, and `Walk.safe` proves it.
-/

namespace Federation

variable {σ : Type}

/-! ### The stack of a search -/

namespace Climb

variable {r : Resolver σ} {goal : Goal} {links : List Link} {frames rest : List Frame}
  {upper lower bottom : Frame}

/-- The frame at the bottom is the one of the leaf, for which nobody vouches. -/
lemma bottom_of_framed {leaf : Statement} (framed : Link.Framed leaf links frames)
    (suffix : [bottom] <:+ frames) : bottom.entity = leaf.subject ∧ bottom.vouching = none := by
  induction links generalizing frames with
  | nil =>
      obtain ⟨frame, rfl, stands⟩ := framed.alone
      cases List.suffix_cons_iff.mp suffix with
      | inl same =>
          cases same
          exact ⟨stands.entity_eq, stands.vouching_eq⟩
      | inr suffix => cases List.suffix_nil.mp suffix
  | cons link links ih =>
      obtain ⟨frame, below, rfl, _, further⟩ := framed.of_cons
      cases List.suffix_cons_iff.mp suffix with
      | inl same =>
          -- below a link there is at least the frame of the leaf
          cases same
          cases links with
          | nil => exact further.elim
          | cons _ _ => exact further.elim
      | inr suffix => exact ih further suffix

/-- Every other frame has a statement by its entity about the entity below. -/
lemma vouching_of_framed (climb : Climb r goal links) (framed : Link.Framed goal.leaf links frames)
    (suffix : upper :: lower :: rest <:+ frames) :
    ∃ s, upper.vouching = some s ∧ s.issuer = upper.entity ∧ s.subject = lower.entity := by
  induction climb generalizing frames with
  | leaf =>
      obtain ⟨frame, rfl, _⟩ := framed.alone
      have long := suffix.length_le
      simp at long
  | @superior link links climb fresh other published binds ih =>
      obtain ⟨frame, below, rfl, stands, further⟩ := framed.of_cons
      cases List.suffix_cons_iff.mp suffix with
      | inl same =>
          cases same
          obtain ⟨_, _, _, _, _, issuer, subject⟩ := binds.issued
          obtain ⟨_, beneath⟩ := further.top_stands
          exact ⟨link.vouching, stands.vouching_eq, issuer.trans stands.entity_eq.symm,
            subject.trans beneath.entity_eq.symm⟩
      | inr suffix => exact ih further suffix

/-- The search stops at the anchor, so it is on no path that has not reached it. -/
lemma ne_anchor (climb : Climb r goal links) (other : goal.leaf.subject ≠ goal.anchor) :
    ∀ entity ∈ Link.entities goal.leaf links, entity ≠ goal.anchor := by
  induction climb with
  | leaf =>
      intro entity mem
      rw [List.mem_singleton.mp mem]
      exact other
  | superior climb fresh elsewhere published binds ih =>
      intro entity mem
      rcases List.mem_cons.mp mem with rfl | mem
      · exact elsewhere
      · exact ih entity mem

end Climb

/-! ### The books of a walk -/

namespace Walk

variable {r : Resolver σ} {goal : Goal} {source : σ} {fallbacks : Fallbacks} {walk : Walk σ}
  {frames : List Frame} {frames' : List Federation.Frame}

/-- The lower part of a path is represented by the lower part. -/
lemma exists_suffix {part : List Frame} (represents : List.Forall₂ Frame.Represents frames frames')
    (suffix : part <:+ frames) :
    ∃ part', part' <:+ frames' ∧ List.Forall₂ Frame.Represents part part' := by
  induction represents with
  | nil => exact ⟨[], List.nil_suffix, List.suffix_nil.mp suffix ▸ .nil⟩
  | @cons top top' _ _ here below ih =>
      rcases List.suffix_cons_iff.mp suffix with rfl | suffix
      · exact ⟨_, List.suffix_rfl, .cons here below⟩
      · obtain ⟨part', suffix', alike⟩ := ih suffix
        exact ⟨part', suffix'.trans (List.suffix_cons top' _), alike⟩

/-- The books of a walk agree with each other. -/
structure Consistent (goal : Goal) (walk : Walk σ) : Prop where
  /-- No entity is on the path twice. -/
  nodup : (walk.frames.map Frame.entity).Nodup
  /-- The anchor is not on the path. -/
  ne_anchor : ∀ frame ∈ walk.frames, frame.entity ≠ goal.anchor
  /-- Each frame lists the entities of those below it, the leaf first. -/
  below_eq : ∀ top lower, top :: lower <:+ walk.frames → top.below = (lower.map Frame.entity).reverse
  /-- The frame at the bottom is the leaf's, for which nobody vouches. -/
  bottom : ∀ bottom, [bottom] <:+ walk.frames →
    bottom.entity = goal.leaf.subject ∧ bottom.vouching = none
  /-- Every other frame has a statement by its entity about the entity of the frame below. -/
  vouching : ∀ upper lower rest, upper :: lower :: rest <:+ walk.frames →
    ∃ s, upper.vouching = some s ∧ s.issuer = upper.entity ∧ s.subject = lower.entity
  /-- There is a limit exactly if there is a number of entities that remain. -/
  limits : ∀ frame ∈ walk.frames, frame.limit.isSome = frame.remaining.isSome
  /-- There is room for the leaf, and for no more entities than may be on a path. -/
  length_le : walk.frames.length ≤ max 1 goal.maxHops

lemma consistent_of_reached (other : goal.leaf.subject ≠ goal.anchor)
    (reached : Reached fallbacks r goal source walk) : Consistent goal walk := by
  obtain ⟨s, reached, represents⟩ := exists_represented reached
  obtain ⟨sound, accounted⟩ := Search.accounted_of_reached reached
  have entities := map_eq_of_represents represents.frames fun _ _ same => same.entity_eq
  -- a part of the stack is one of a stack that stands for links, unless it is empty
  have climbed : ∀ {top lower}, top :: lower <:+ walk.frames → ∃ links,
      Climb r goal links ∧ Link.Framed goal.leaf links s.frames := by
    intro top lower suffix
    rcases sound.framed with empty | framed
    · have alike := represents.frames
      rw [empty] at alike
      cases List.suffix_nil.mp (List.forall₂_nil_right_iff.mp alike ▸ suffix)
    · exact framed
  refine
    { nodup := ?_, ne_anchor := ?_, below_eq := ?_, bottom := ?_, vouching := ?_, limits := ?_
      length_le := represents.frames.length_eq ▸ s.frames_length_le }
  · rw [entities]
    cases path : s.frames with
    | nil => exact List.nodup_nil
    | cons top lower => exact (sound.tied path).nodup
  · intro frame mem
    obtain ⟨above, lower, path⟩ := List.append_of_mem mem
    obtain ⟨links, climb, framed⟩ := climbed ⟨above, path.symm⟩
    refine climb.ne_anchor other _ ?_
    rw [← framed.map_entity, ← entities]
    exact List.mem_map_of_mem mem
  · intro top lower suffix
    obtain ⟨_, suffix', alike⟩ := exists_suffix represents.frames suffix
    cases alike with
    | cons here below =>
        rw [here.below_eq, (accounted _ _ suffix').below_eq,
          map_eq_of_represents below fun _ _ same => same.entity_eq]
  · intro bottom suffix
    obtain ⟨links, climb, framed⟩ := climbed suffix
    obtain ⟨_, suffix', alike⟩ := exists_suffix represents.frames suffix
    cases alike with
    | cons here below =>
        cases below
        obtain ⟨entity, vouching⟩ := Climb.bottom_of_framed framed suffix'
        exact ⟨here.entity_eq.trans entity, here.vouching_eq.trans vouching⟩
  · intro upper lower rest suffix
    obtain ⟨links, climb, framed⟩ := climbed suffix
    obtain ⟨_, suffix', alike⟩ := exists_suffix represents.frames suffix
    cases alike with
    | cons here beneath =>
        cases beneath with
        | cons beneath further =>
            obtain ⟨s, vouching, issuer, subject⟩ := climb.vouching_of_framed framed suffix'
            exact ⟨s, here.vouching_eq.trans vouching, issuer.trans here.entity_eq.symm,
              subject.trans beneath.entity_eq.symm⟩
  · intro frame mem
    obtain ⟨above, lower, path⟩ := List.append_of_mem mem
    obtain ⟨_, _, alike⟩ := exists_suffix represents.frames ⟨above, path.symm⟩
    cases alike with
    | cons here below => rw [here.limit_eq, here.remaining_eq, Option.isSome_map, Option.isSome_map]

/-- A hint that is refused is used up, and the frames stay as they are otherwise. -/
lemma step_of_refused (reached : Reached fallbacks r goal source walk) {top : Frame}
    {lower : List Frame} {hint : EntityId} {failure : Failure} {walk' : Walk σ}
    (path : walk.frames = top :: lower) (next : top.hints[top.nextHint]? = some hint)
    (refused : examine fallbacks r goal hint { walk with frames := top.advanced :: lower } =
      (.error failure, walk')) :
    step fallbacks r goal walk =
      .onward ⟨top.advanced :: lower, walk'.knowledge,
        Search.record walk.deepest (lower.length + 1) failure⟩ := by
  obtain ⟨s, _, represents⟩ := exists_represented reached
  obtain ⟨frames, knowledge, deepest⟩ := walk
  dsimp only at path
  subst path
  obtain ⟨top', lower', here, below, _⟩ := List.forall₂_cons_left_iff.mp represents.frames
  cases left : top'.untried with
  | nil =>
      have takes := here.takeHint?_eq_none left
      rw [Frame.takeHint?, next] at takes
      cases takes
  | cons hint' untried =>
      obtain ⟨takes, rest⟩ := here.takeHint?_eq_some left
      rw [Frame.takeHint?, next] at takes
      cases takes
      have entities := map_eq_of_represents below fun _ _ same => same.entity_eq
      have examined := follows_examine fallbacks r goal hint deepest rest entities knowledge
      rw [attempt_taken, refused] at examined
      rw [step_of_hint here below left]
      cases attempted : Search.attempt r goal top' lower' hint knowledge with
      | mk answer known' =>
          rw [attempted] at examined
          cases answer with
          | ok admission => cases examined
          | error failure' =>
              cases examined
              rfl

/-- A walk leads to a path of linked statements, if it leads to one at all. -/
lemma linked_of_within {n : Nat} {path : List Statement} {final : Walk σ}
    (ended : within fallbacks r goal n (start goal source) = .done (.ok path) final)
    (self_issued : goal.leaf.isSelfIssued = true) : TrustChain.Linked (path ++ [goal.leaf]) := by
  have moves := represents_within fallbacks r n
    (represents_start goal source [.passed .start .resolving])
  rw [ended] at moves
  generalize move : Search.within r goal n _ = move at moves
  cases moves with
  | done _ =>
      obtain ⟨link, links, summit, rfl⟩ := Climb.summit_of_run (Search.run_eq_of_within move)
      exact summit.linked self_issued

/-! ### The theorem -/

/-- What never goes wrong on a walk. -/
structure Safe (r : Resolver σ) (goal : Goal) (source : σ) : Prop where
  /-- In every state that is reached the books agree with each other. -/
  consistent : ∀ fallbacks walk, Reached fallbacks r goal source walk → Consistent goal walk
  /-- A hint that is refused is used up, and all frames stay as they are otherwise. -/
  refused : ∀ fallbacks walk, Reached fallbacks r goal source walk →
    ∀ top lower hint failure walk', walk.frames = top :: lower →
      top.hints[top.nextHint]? = some hint →
      examine fallbacks r goal hint { walk with frames := top.advanced :: lower } =
          (.error failure, walk') →
        step fallbacks r goal walk =
          .onward
            { frames := { top with nextHint := top.nextHint + 1 } :: lower
              knowledge := walk'.knowledge
              deepest := Search.record walk.deepest (lower.length + 1) failure }
  /-- What a step does in such a state does not depend on the fallbacks. -/
  unused : ∀ fallbacks fallbacks' walk, Reached fallbacks r goal source walk →
    step fallbacks' r goal walk = step fallbacks r goal walk
  /-- With any fallbacks the walk ends as the search does. -/
  ends : ∀ fallbacks, ∃ n final,
    within fallbacks r goal n (start goal source) = .done (r.searchFrom goal source).1 final
  /-- The statements of a path that is found form a chain with the configuration of the leaf. -/
  assembled : ∀ fallbacks n path final,
    within fallbacks r goal n (start goal source) = .done (.ok path) final →
      goal.leaf.isSelfIssued = true → ∀ type policy metadata, ∃ chain,
        TrustChain.assemble (path ++ [goal.leaf]) type policy metadata = .ok chain

/-- **Nothing is ever missing on a walk** from a leaf other than the anchor. -/
theorem safe (r : Resolver σ) (goal : Goal) (source : σ) (other : goal.leaf.subject ≠ goal.anchor) :
    Safe r goal source := by
  refine
    { consistent := fun _ _ reached => consistent_of_reached other reached
      refused := fun _ _ reached _ _ _ _ _ path next refused => step_of_refused reached path next refused
      unused := ?_
      ends := ?_
      assembled := ?_ }
  · intro fallbacks fallbacks' walk reached
    obtain ⟨s, _, represents⟩ := exists_represented reached
    exact step_eq_step represents
  · intro fallbacks
    obtain ⟨n, result, final, ended⟩ :=
      Search.exists_within r (Search.start goal ⟨source, none⟩ [.passed .start .resolving])
    have moves := represents_within fallbacks r n
      (represents_start goal source [.passed .start .resolving])
    rw [ended] at moves
    refine ⟨n, ?_⟩
    have found : (r.searchFrom goal source).1 = result := by
      rw [Resolver.searchFrom, Search.run_eq_of_within ended]
    rw [found]
    cases move : within fallbacks r goal n (start goal source) with
    | onward walk =>
        rw [move] at moves
        cases moves
    | done result' walk =>
        rw [move] at moves
        cases moves
        exact ⟨walk, rfl⟩
  · intro fallbacks n path final ended self_issued type policy metadata
    exact TrustChain.exists_assemble (linked_of_within ended self_issued) (by simp) type policy metadata

/-! ### An example -/

/-- The walk after a move that does not end it. -/
def Move.next? : Move σ → Option (Walk σ)
  | .onward next => some next
  | .done _ _ => none

lemma reached_of_next? {next : Walk σ} (reached : Reached fallbacks r goal source walk)
    (went : (step fallbacks r goal walk).next? = some next) : Reached fallbacks r goal source next := by
  cases move : step fallbacks r goal walk with
  | done result final =>
      rw [move] at went
      cases went
  | onward after =>
      rw [move] at went
      cases went
      exact .tail reached move

end Walk

namespace Table

/-- The authority has used up the hint of the region, which would have been the second entity between the
party and the anchor. -/
theorem safe_underRegion :
    ∃ leaf walk, Statement.ofClaims boundedParty.claims = .ok leaf ∧
      leaf.subject ≠ (terms "https://anchor" "root").anchor ∧
      Walk.Reached .standard underRegion.resolver { terms "https://anchor" "root" with leaf } () walk ∧
      (walk.frames.map fun frame => (frame.entity, frame.nextHint, frame.remaining, frame.limit)) =
        [(⟨"https://authority"⟩, 1, some 0, some 1), (⟨"https://party"⟩, 1, some 1, some 1)] ∧
      Walk.Consistent { terms "https://anchor" "root" with leaf } walk := by
  have walked : ((Statement.ofClaims boundedParty.claims).toOption.bind fun leaf =>
      (Walk.step .standard underRegion.resolver { terms "https://anchor" "root" with leaf }
        (Walk.start { terms "https://anchor" "root" with leaf } ())).next?.bind fun first =>
      (Walk.step .standard underRegion.resolver { terms "https://anchor" "root" with leaf }
        first).next?.map fun walk =>
          walk.frames.map fun frame => (frame.entity, frame.nextHint, frame.remaining, frame.limit)) =
      some [(⟨"https://authority"⟩, 1, some 0, some 1), (⟨"https://party"⟩, 1, some 1, some 1)] := by
    decide +kernel
  have named : (Statement.ofClaims boundedParty.claims).toOption.map Statement.subject =
      some ⟨"https://party"⟩ := by
    decide +kernel
  obtain ⟨leaf, read, walked⟩ := Option.bind_eq_some_iff.mp walked
  obtain ⟨first, went, walked⟩ := Option.bind_eq_some_iff.mp walked
  obtain ⟨walk, went', frames⟩ := Option.map_eq_some_iff.mp walked
  have subject : leaf.subject = ⟨"https://party"⟩ := by
    rw [read] at named
    exact Option.some.inj named
  have other : leaf.subject ≠ (terms "https://anchor" "root").anchor := by
    rw [subject]
    decide
  have reached : Walk.Reached .standard underRegion.resolver
      { terms "https://anchor" "root" with leaf } () walk :=
    Walk.reached_of_next? (Walk.reached_of_next? .refl went) went'
  have safe := Walk.safe underRegion.resolver { terms "https://anchor" "root" with leaf } () other
  exact ⟨leaf, walk, Except.toOption_eq_some_iff.mp read, other, reached, frames,
    safe.consistent .standard walk reached⟩

end Table

end Federation
