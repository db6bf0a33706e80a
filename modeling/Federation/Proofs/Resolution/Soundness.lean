import Federation.Proofs.Resolution.Table

/-!
# Soundness of resolved chains

Whatever the fetcher answers, a chain that is returned rests on statements that were verified, tie
each entity to the one below it and are valid for as long as the chain is.

**Paths.**  The subjects of the statements of a path are its entities, of which no two are equal, with
the leaf named twice (`Summit.map_subject`, `Summit.nodup`).

**Validity.**  What a superior brings with it holds of each link (`Climb.forall_links`), so every
statement of a chain is current (`Summit.current`), and stays valid until the chain expires.

**The theorem.**  `Resolver.Rests` collects what a chain rests on, and `Resolver.rests_of_resolve`
proves it of every chain of a leaf that is not the anchor.
-/

namespace Federation

variable {σ : Type} {r : Resolver σ} {goal : Goal}

/-! ### Paths -/

lemma Link.entities_eq_cons (leaf : Statement) (links : List Link) :
    entities leaf links = (topOf leaf links).subject :: (entities leaf links).tail := by
  cases links with
  | nil => rfl
  | cons link links => rfl

/-- Under a faithful verifier, the keys a text lists before it is verified are those of the statement
it holds. -/
lemma Resolver.issued_of_published {entity : EntityId} {s : Statement}
    (faithful : r.verifier.Faithful) (published : r.Published entity s) :
    r.Issued s.keys entity entity s := by
  obtain ⟨raw, claims, peeked, unverified, serves, peek, unread, verified, read, names⟩ := published
  have same : peeked = claims := by
    rw [faithful raw _ claims verified] at peek
    exact (Except.ok.inj peek).symm
  have same' : unverified = s := by
    rw [same, read] at unread
    exact (Except.ok.inj unread).symm
  exact ⟨raw, claims, serves, same' ▸ verified, read, names⟩

namespace Climb

variable {links : List Link}

/-- Each superior vouches for the entity below it. -/
lemma map_subject (climb : Climb r goal links) :
    (links.map fun link => link.vouching.subject) = (Link.entities goal.leaf links).tail := by
  induction climb with
  | leaf => rfl
  | @superior link links climb fresh other published binds ih =>
      obtain ⟨_, _, _, _, _, _, subject⟩ := binds.issued
      rw [List.map_cons, ih, subject, ← Link.entities_eq_cons]
      rfl

lemma nodup (climb : Climb r goal links) : (Link.entities goal.leaf links).Nodup := by
  induction climb with
  | leaf => simp [Link.entities]
  | superior climb fresh other published binds ih => exact List.nodup_cons.mpr ⟨fresh, ih⟩

/-- What every superior brings with it when it is joined to a path holds of each link of the path. -/
lemma forall_links {P : Link → Prop}
    (joined : ∀ {link : Link} {links : List Link},
      r.Published link.entity link.configuration →
      link.Binds r goal link.configuration.keys (Link.topOf goal.leaf links) → P link)
    (climb : Climb r goal links) : ∀ link ∈ links, P link := by
  induction climb with
  | leaf =>
      intro link mem
      cases mem
  | superior climb fresh other published binds ih =>
      intro link mem
      rcases List.mem_cons.mp mem with rfl | mem
      · exact joined published binds
      · exact ih link mem

lemma current (climb : Climb r goal links) :
    ∀ link ∈ links, link.configuration.Current goal.now ∧ link.vouching.Current goal.now :=
  climb.forall_links fun _ binds => ⟨binds.configuration_current, binds.vouching_current⟩

/-- Under a faithful verifier, a superior below the anchor publishes the keys that verify its own
configuration. -/
lemma self_verified (faithful : r.verifier.Faithful) (climb : Climb r goal links) :
    ∀ link ∈ links,
      r.Issued link.configuration.keys link.entity link.entity link.configuration :=
  climb.forall_links fun published _ => Resolver.issued_of_published faithful published

end Climb

namespace Summit

variable {link : Link} {links : List Link}

lemma nodup (summit : Summit r goal link links) :
    (Link.entities goal.leaf (link :: links)).Nodup :=
  List.nodup_cons.mpr ⟨summit.fresh, summit.climb.nodup⟩

lemma map_subject (summit : Summit r goal link links) :
    (link.statements links ++ [goal.leaf]).map Statement.subject =
      Link.entities goal.leaf (link :: links) ++ [goal.leaf.subject] := by
  obtain ⟨_, _, _, _, _, _, subject⟩ := summit.binds.issued
  have below : ((link :: links).map fun link => link.vouching.subject) =
      Link.entities goal.leaf links := by
    rw [List.map_cons, summit.climb.map_subject, subject, ← Link.entities_eq_cons]
  have vouched : ((link :: links).map Link.vouching).map Statement.subject =
      Link.entities goal.leaf links := by
    rw [List.map_map, ← below]
    rfl
  rw [Link.statements, List.cons_append, List.map_cons, List.map_append, vouched]
  rfl

/-- Every statement of the path is current, the configurations left out of it included. -/
lemma current (summit : Summit r goal link links) :
    ∀ l ∈ link :: links, l.configuration.Current goal.now ∧ l.vouching.Current goal.now := by
  intro l mem
  rcases List.mem_cons.mp mem with rfl | mem
  · exact ⟨summit.binds.configuration_current, summit.binds.vouching_current⟩
  · exact summit.climb.current l mem

lemma statements_current (summit : Summit r goal link links) :
    ∀ s ∈ link.statements links, s.Current goal.now := by
  intro s mem
  rcases List.mem_cons.mp mem with rfl | mem
  · exact summit.binds.configuration_current
  · obtain ⟨l, on_path, rfl⟩ := List.mem_map.mp mem
    exact (summit.current l on_path).2

end Summit

/-! ### Chains -/

/-- A last entity that is named twice is mentioned once. -/
lemma TrustChain.withoutRepeats_append_last {ids : List EntityId} {last : EntityId}
    (nodup : (ids ++ [last]).Nodup) :
    withoutRepeats (ids ++ [last] ++ [last]) = ids ++ [last] := by
  induction ids with
  | nil => simp [withoutRepeats]
  | cons first rest ih =>
      obtain ⟨fresh, nodup'⟩ := List.nodup_cons.mp nodup
      have kept := ih nodup'
      cases rest with
      | nil =>
          have differs : first ≠ last := fun same => fresh (same ▸ List.mem_cons_self)
          simp [withoutRepeats, differs]
      | cons second rest =>
          have differs : first ≠ second := fun same => fresh (same ▸ List.mem_cons_self)
          simpa [withoutRepeats, differs] using kept

/-- A statement that is valid now stays so until it expires. -/
lemma Statement.Current.isValidAt {s : Statement} {now t : Int} (current : s.Current now)
    (later : now ≤ t) (before : t < s.expiresAt) : s.isValidAt t = true := by
  obtain ⟨valid, -⟩ := Statement.current_iff.mp current
  simp only [Statement.isValidAt, Bool.and_eq_true, decide_eq_true_eq] at valid ⊢
  omega

/-- What a chain rests on: the superiors on its path, from that of the anchor to the one directly
above the leaf. -/
structure Resolver.Rests (r : Resolver σ) (goal : Goal) (chain : TrustChain) (link : Link)
    (links : List Link) : Prop where
  /-- The chain is the anchor's configuration, what the superiors state, and the leaf. -/
  statements_eq : chain.statements = link.statements links ++ [goal.leaf]
  /-- Every link was fetched, verified, hinted at and checked, and the first is the anchor's. -/
  summit : Summit r goal link links
  /-- The keys of a superior below the anchor also verify the configuration that lists them. -/
  self_verified : ∀ l ∈ links, r.Issued l.configuration.keys l.entity l.entity l.configuration
  /-- The configurations and statements of the superiors are current. -/
  current : ∀ l ∈ link :: links, l.configuration.Current goal.now ∧ l.vouching.Current goal.now
  /-- So is every statement of the chain, the leaf's included: it lies in its validity window and has the
  claims it must have (`Statement.current_iff`). -/
  statements_current : ∀ s ∈ chain.statements, s.Current goal.now
  /-- No entity is on the path twice. -/
  nodup : (Link.entities goal.leaf (link :: links)).Nodup
  /-- The statements below the anchor's configuration are no more than the caller allows. -/
  length_le : (link :: links).length + 1 ≤ goal.maxHops
  /-- The chain names its entities, the anchor first. -/
  path_eq : chain.path = Link.entities goal.leaf (link :: links)
  /-- While the chain has not expired, all its statements are valid. -/
  valid_until : ∀ t, goal.now ≤ t → t < chain.expiresAt →
    ∀ s ∈ chain.statements, s.isValidAt t = true

/-- **A chain rests on verified statements.**  Whatever the fetcher answers and in whatever order the
hints were tried, a chain that is returned for a leaf other than the anchor has a superior for every
step from the leaf to the anchor, each of which has passed every check. -/
theorem Resolver.rests_of_resolve {source : σ} {chain : TrustChain}
    (faithful : r.verifier.Faithful) (other : goal.leaf.subject ≠ goal.anchor)
    (h : (r.resolve goal source).result = .ok chain) :
    ∃ link links, r.Rests goal chain link links := by
  obtain ⟨_, leaf_current, found⟩ := resolved h
  rcases found with ⟨is_anchor, _⟩ | ⟨_, path, final, found, concluded⟩
  · exact absurd is_anchor other
  obtain ⟨link, links, summit, rfl⟩ := Climb.summit_of_run found
  have current : ∀ s ∈ chain.statements, s.Current goal.now := by
    intro s mem
    rw [concluded.statements_eq] at mem
    rcases List.mem_append.mp mem with mem | mem
    · exact summit.statements_current s mem
    · exact List.mem_singleton.mp mem ▸ leaf_current
  refine ⟨link, links,
    { statements_eq := concluded.statements_eq
      summit := summit
      self_verified := summit.climb.self_verified faithful
      current := summit.current
      statements_current := current
      nodup := summit.nodup
      length_le := summit.room
      path_eq := ?_
      valid_until := ?_ }⟩
  · rw [TrustChain.path, concluded.statements_eq, summit.map_subject]
    exact TrustChain.withoutRepeats_append_last summit.nodup
  · intro t later before s mem
    have expires := concluded.expiresAt_le s (concluded.statements_eq ▸ mem)
    exact (current s mem).isValidAt later (by omega)

/-- A relying party under an authority under the anchor. -/
def Table.underAuthority : Table :=
  [configuration "https://anchor" "root" ["root"] [],
    vouching "https://anchor" "https://authority" "root" ["authority"],
    configuration "https://authority" "authority" ["authority"] ["https://anchor"],
    vouching "https://authority" "https://party" "authority" ["party"],
    configuration "https://party" "party" ["party"] ["https://authority"]]

/-- The chain of a relying party under an authority rests on what the two state and publish. -/
theorem Table.rests_underAuthority :
    ∃ leaf chain link links,
      Statement.ofClaims (configuration "https://party" "party" ["party"]
        ["https://authority"]).claims = .ok leaf ∧
      (underAuthority.resolver.resolve { terms "https://anchor" "root" with leaf } ()).result =
        .ok chain ∧
      underAuthority.resolver.Rests { terms "https://anchor" "root" with leaf } chain link links := by
  have evaluated : ((Statement.ofClaims (configuration "https://party" "party" ["party"]
      ["https://authority"]).claims).toOption.bind fun leaf =>
        Resolver.chainWithin 4 underAuthority.resolver
          { terms "https://anchor" "root" with leaf } ()).isSome = true := by
    decide +kernel
  obtain ⟨chain, found⟩ := Option.isSome_iff_exists.mp evaluated
  obtain ⟨leaf, read, found⟩ := Option.bind_eq_some_iff.mp found
  obtain ⟨other, resolved⟩ := Resolver.resolve_of_chainWithin found
  obtain ⟨link, links, rests⟩ := Resolver.rests_of_resolve Verifier.ideal_faithful other resolved
  refine ⟨leaf, chain, link, links, ?_, resolved, rests⟩
  exact Except.toOption_eq_some_iff.mp read

end Federation
