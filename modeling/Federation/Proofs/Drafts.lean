import Federation.Proofs.Contents
import Federation.Proofs.Lifetime
import Federation.Proofs.Policy.Editing
import Federation.Statement.Draft
import Mathlib.Data.List.Find

/-!
# Drafts with extension claims

Without extension claims a draft is finished as it stands.  With them it takes another way: it is written,
the extension claims are set among the written ones, and the result is read.  The two ways lead to one
statement.

**Parts.**  `Statement.Draft.Made` lists the ways in which a draft comes about.  Whatever its parts, its
statement can be written and read again (`Statement.Draft.Made.sound`, `Statement.Draft.Sound.encodable`).

**Finishing.**  An extension claim must not have the name of a claim that is written
(`Statement.Draft.foldlM_extend`).  `Statement.Draft.built_of_finish` says all there is to say about a
draft that has been finished.

**Extension claims.**  `Statement.Draft.extended_of_made` compares a finished draft with the same draft
without its extension claims, or without one of them.
-/

namespace Federation.Statement.Draft

variable {d : Draft} {clock : Int} {s s' : Statement} {name : String} {value : Json}

/-! ### Parts -/

/-- How a draft comes about: issuer, subject and keys are there from the start, the other parts are set
in any order.  Keys, policies and constraints have been read, and times are numbers of 64 bits. -/
inductive Made : Draft → Prop where
  | about (issuer subject : EntityId) {value : Json} {keys : KeySet}
      (read : KeySet.read value = .ok keys) : Made (about issuer subject keys)
  | issuedFrom {d : Draft} {seconds : Int} (made : Made d) (fits : Lifetime.Fits seconds) :
      Made (d.issuedFrom seconds)
  | expiringAt {d : Draft} {seconds : Int} (made : Made d) (fits : Lifetime.Fits seconds) :
      Made (d.expiringAt seconds)
  | addAudience {d : Draft} (made : Made d) (audience : String) : Made (d.addAudience audience)
  | setMetadata {d : Draft} (made : Made d) (type : EntityType) (metadata : Members Json) :
      Made (d.setMetadata type metadata)
  | setPolicy {d : Draft} (made : Made d) (type : EntityType) {policy : Policy} (read : policy.Made) :
      Made (d.setPolicy type policy)
  | setConstraints {d : Draft} (made : Made d) {value : Json} {c : Constraints}
      (read : Constraints.read value = .ok c) : Made (d.setConstraints c)
  | addHints {d : Draft} (made : Made d) (hints : List EntityId) : Made (d.addHints hints)
  | addCritical {d : Draft} (made : Made d) (claim : String) : Made (d.addCritical claim)
  | addPolicyCritical {d : Draft} (made : Made d) (operator : String) :
      Made (d.addPolicyCritical operator)
  | setExtension {d : Draft} (made : Made d) (name : String) {value : Json}
      (wellFormed : value.WellFormed) : Made (d.setExtension name value)

/-- The draft without its extension claims. -/
def bare (d : Draft) : Draft :=
  { d with extensions := [] }

/-- The draft without the extension claim of a name. -/
def without (d : Draft) (name : String) : Draft :=
  { d with extensions := d.extensions.erase name }

/-- What all parts of a draft have in common: they can be written and read again. -/
structure Sound (d : Draft) : Prop where
  issuedAt : ∀ seconds, d.issuedAt = some seconds → Lifetime.Fits seconds
  expiresAt : ∀ seconds, d.expiresAt = some seconds → Lifetime.Fits seconds
  keys : d.keys.Plain
  metadata : d.metadata.Sorted
  metadataPolicy : ∀ policies, d.metadataPolicy = some policies → Readable policies
  constraints : ∀ c, d.constraints = some c → c.Writable
  extensions : (Json.object d.extensions).WellFormed

lemma readable_insertSorted {policies : Members Policy} {policy : Policy} (readable : Readable policies)
    (read : Policy.read policy.toJson = .ok policy) :
    Readable (policies.insertSorted name policy) := by
  refine ⟨readable.sorted.insertSorted, fun entry mem => ?_⟩
  rcases Members.mem_insertSorted mem with rfl | mem
  · exact read
  · exact readable.each entry mem

lemma Sound.setPolicy (sound : d.Sound) (type : EntityType) {policy : Policy} (read : policy.Made) :
    (d.setPolicy type policy).Sound := by
  have again : Policy.read policy.toJson = .ok policy :=
    Except.mapError_eq_ok_iff.mpr read.regular.ofJson_toJson
  have before : Readable (d.metadataPolicy.getD []) := by
    cases policies : d.metadataPolicy with
    | none => exact ⟨List.Pairwise.nil, fun _ mem => absurd mem List.not_mem_nil⟩
    | some policies' => exact sound.metadataPolicy policies' policies
  exact
    { sound with
      metadataPolicy := by
        rintro policies ⟨⟩
        exact readable_insertSorted before again }

/-- **However a draft has been made, it can be written and read again.** -/
theorem Made.sound (made : d.Made) : d.Sound := by
  induction made with
  | about issuer subject read =>
      exact
        { issuedAt := nofun
          expiresAt := nofun
          keys := KeySet.plain_of_read read
          metadata := List.Pairwise.nil
          metadataPolicy := nofun
          constraints := nofun
          extensions := ⟨List.nodup_nil, trivial⟩ }
  | issuedFrom _ fits ih => exact { ih with issuedAt := by rintro _ ⟨⟩; exact fits }
  | expiringAt _ fits ih => exact { ih with expiresAt := by rintro _ ⟨⟩; exact fits }
  | addAudience _ audience ih => exact { ih with }
  | setMetadata _ type metadata ih => exact { ih with metadata := ih.metadata.insertSorted }
  | setPolicy _ type read ih => exact ih.setPolicy type read
  | setConstraints _ read ih =>
      exact { ih with constraints := by rintro _ ⟨⟩; exact Constraints.writable_of_read read }
  | addHints _ hints ih => exact { ih with }
  | addCritical _ claim ih => exact { ih with }
  | addPolicyCritical _ operator ih => exact { ih with }
  | setExtension _ name wellFormed ih =>
      exact { ih with extensions := ih.extensions.insert name wellFormed }

namespace Sound

lemma without (sound : d.Sound) (name : String) : (d.without name).Sound :=
  { sound with
    extensions := ⟨Members.distinct_erase sound.extensions.1,
      Json.allMembersWellFormed_iff.mpr fun claim mem =>
        Json.allMembersWellFormed_iff.mp sound.extensions.2 claim (List.mem_of_mem_filter mem)⟩ }

lemma fits_start (sound : d.Sound) (fits : Lifetime.Fits clock) : Lifetime.Fits (d.start clock) := by
  rw [start]
  cases given : d.issuedAt with
  | none => exact fits
  | some seconds => exact sound.issuedAt seconds given

lemma fits_finalSecond (sound : d.Sound) : Lifetime.Fits (d.finalSecond clock) := by
  rw [finalSecond]
  cases given : d.expiresAt with
  | none => exact Lifetime.fits_endOf _
  | some seconds => exact sound.expiresAt seconds given

/-- The statement of a draft can be written and read again, also with other claims. -/
lemma encodable (sound : d.Sound) (fits : Lifetime.Fits clock) (others : Members Json)
    (distinct : others.Distinct) (foreign : ∀ claim ∈ others, claim.1 ∉ registeredClaims) :
    ((d.plain clock).withOthers others).Encodable where
  issuedAt := Lifetime.int64?_int_iff.mpr (sound.fits_start fits)
  expiresAt := Lifetime.int64?_int_iff.mpr sound.fits_finalSecond
  keys := sound.keys
  metadata := sound.metadata
  metadataPolicy := sound.metadataPolicy
  constraints := sound.constraints
  distinct := distinct
  separate := fun claim mem => by simpa using foreign claim mem

lemma encodable_plain (sound : d.Sound) (fits : Lifetime.Fits clock) :
    (d.plain clock).Encodable :=
  sound.encodable fits [] List.nodup_nil fun _ mem => absurd mem List.not_mem_nil

end Sound

/-! ### Finishing -/

/-- An extension claim has the name of a claim that is written. -/
def collision (name : String) : Failure :=
  .malformed s!"extension claim {name} collides with a registered claim"

/-- **Extension claims are set behind the written ones, unless one of them has a name that is taken.** -/
theorem foldlM_extend {written extensions : Members Json} (distinct : extensions.Distinct) :
    extensions.foldlM extend written =
      match extensions.find? fun claim => written.has claim.1 with
      | some claim => .error (collision claim.1)
      | none => .ok (written ++ extensions) := by
  induction extensions generalizing written with
  | nil => exact congrArg Except.ok (List.append_nil written).symm
  | cons claim rest ih =>
      obtain ⟨fresh, distinct'⟩ := List.nodup_cons.mp distinct
      rw [List.foldlM_cons, extend]
      cases taken : written.has claim.1 with
      | true =>
          simp only [List.find?_cons, taken]
          rfl
      | false =>
          have absent : claim.1 ∉ written.keys := fun mem => by
            rw [Members.has_iff.mpr mem] at taken
            cases taken
          -- the claim itself takes no name of those after it
          have same : (rest.find? fun other => (written ++ [claim]).has other.1) =
              rest.find? fun other => written.has other.1 := by
            refine List.find?_congr fun other mem => ?_
            have differs : claim.1 ≠ other.1 := fun same => fresh (same ▸ List.mem_map_of_mem mem)
            rw [Members.has, Members.has, Members.get?_append, Members.get?_cons_of_ne differs,
              Members.get?_nil, Option.or_none]
          simp only [List.find?_cons, taken]
          rw [if_neg Bool.false_ne_true, Members.insert_of_not_mem absent]
          show List.foldlM extend (written ++ [claim]) rest = _
          rw [ih distinct', same, List.append_assoc]
          rfl

lemma finish_of_passed (passed : d.finalSecond clock ≤ d.start clock) : d.finish clock =
    .error (.malformed s!"exp {d.finalSecond clock} must be after iat {d.start clock}") := by
  rw [finish, if_pos passed]

lemma finish_of_nil (inTime : ¬d.finalSecond clock ≤ d.start clock) (nothing : d.extensions = []) :
    d.finish clock = .ok (d.plain clock) := by
  rw [finish, if_neg inTime, nothing]
  rfl

lemma finish_of_cons (inTime : ¬d.finalSecond clock ≤ d.start clock) (something : d.extensions ≠ [])
    (distinct : d.extensions.Distinct) : d.finish clock =
      match d.extensions.find? fun claim => (d.plain clock).toMembers.has claim.1 with
      | some claim => .error (collision claim.1)
      | none => ofMembers ((d.plain clock).toMembers ++ d.extensions) := by
  have filled : ¬d.extensions.isEmpty = true := fun empty => something (List.isEmpty_iff.mp empty)
  rw [finish, if_neg inTime, if_neg filled, foldlM_extend distinct]
  cases d.extensions.find? fun claim => (d.plain clock).toMembers.has claim.1 with
  | none => simp only [bind, Except.bind]
  | some claim => simp only [bind, Except.bind]

/-- No extension claim has the name of a claim that is written. -/
def Free (d : Draft) (clock : Int) : Prop :=
  ∀ claim ∈ d.extensions, (d.plain clock).toMembers.has claim.1 = false

lemma finish_of_free (inTime : ¬d.finalSecond clock ≤ d.start clock) (something : d.extensions ≠ [])
    (distinct : d.extensions.Distinct) (free : d.Free clock) :
    d.finish clock = ofMembers ((d.plain clock).toMembers ++ d.extensions) := by
  have none_taken : (d.extensions.find? fun claim => (d.plain clock).toMembers.has claim.1) = none :=
    List.find?_eq_none.mpr fun claim mem => by simp [free claim mem]
  rw [finish_of_cons inTime something distinct, none_taken]

/-- **A draft is finished as it stands, or read from its claims with the extension claims behind them.** -/
theorem built_of_finish (distinct : d.extensions.Distinct) (h : d.finish clock = .ok s) :
    ¬d.finalSecond clock ≤ d.start clock ∧
      (d.extensions = [] ∧ s = d.plain clock ∨
        d.extensions ≠ [] ∧ d.Free clock ∧
          Decoded ((d.plain clock).toMembers ++ d.extensions) s) := by
  by_cases passed : d.finalSecond clock ≤ d.start clock
  · rw [finish_of_passed passed] at h
    cases h
  · refine ⟨passed, ?_⟩
    by_cases nothing : d.extensions = []
    · rw [finish_of_nil passed nothing] at h
      cases h
      exact .inl ⟨nothing, rfl⟩
    · rw [finish_of_cons passed nothing distinct] at h
      split at h
      · cases h
      · rename_i none_taken
        refine .inr ⟨nothing, fun claim mem => ?_, decoded_of_ofMembers h⟩
        simpa using List.find?_eq_none.mp none_taken claim mem

/-! ### Claims that are written -/

lemma separate_plain (d : Draft) (clock : Int) : (d.plain clock).Separate :=
  fun _ mem => absurd mem List.not_mem_nil

lemma registered_of_has (taken : (d.plain clock).toMembers.has name = true) :
    name ∈ registeredClaims :=
  (d.plain clock).keys_registeredMembers.subset (Members.has_iff.mp taken)

/-- Extension claims do not hide what is written. -/
lemma get?_written (written : (d.plain clock).toMembers.has name = true) :
    ((d.plain clock).toMembers ++ d.extensions).get? name = (d.plain clock).toMembers.get? name := by
  obtain ⟨value, found⟩ := Option.isSome_iff_exists.mp written
  rw [Members.get?_append, found, Option.some_or]

/-- Where there is no extension claim there is what is written. -/
lemma get?_of_absent (absent : d.extensions.get? name = none) :
    ((d.plain clock).toMembers ++ d.extensions).get? name = (d.plain clock).toMembers.get? name := by
  rw [Members.get?_append, absent, Option.or_none]

lemma distinct_of_free (distinct : d.extensions.Distinct) (free : d.Free clock) :
    ((d.plain clock).toMembers ++ d.extensions).Distinct := by
  rw [Members.Distinct, Members.keys, List.map_append, List.nodup_append]
  refine ⟨(d.plain clock).keys_registeredMembers.nodup (by decide), distinct, ?_⟩
  rintro name mem _ mem' rfl
  obtain ⟨claim, claim_mem, rfl⟩ := List.mem_map.mp mem'
  have taken := Members.has_iff.mpr mem
  rw [free claim claim_mem] at taken
  cases taken

section Extended

variable (sound : d.Sound) (fits : Lifetime.Fits clock)
  (stable : ∀ id ∈ (d.plain clock).identifiers, id.Stable)

include sound fits stable

/-- What is written for a draft is read as its statement. -/
lemma decoded_plain : Decoded (d.plain clock).toMembers (d.plain clock).refilled :=
  (sound.encodable_plain fits).decoded_refilled stable

/-- **Extension claims with names of their own change nothing but the other claims.** -/
theorem finish_of_foreign (foreign : ∀ claim ∈ d.extensions, claim.1 ∉ registeredClaims) :
    d.finish clock = (d.bare.finish clock).map fun s =>
      (if d.extensions.isEmpty then s else s.refilled).withOthers d.extensions := by
  by_cases passed : d.finalSecond clock ≤ d.start clock
  · rw [finish_of_passed passed, finish_of_passed (d := d.bare) passed]
    rfl
  · rw [finish_of_nil (d := d.bare) passed rfl]
    by_cases nothing : d.extensions = []
    · rw [finish_of_nil passed nothing, nothing]
      rfl
    · have filled : ¬d.extensions.isEmpty = true := fun empty => nothing (List.isEmpty_iff.mp empty)
      have free : d.Free clock := fun claim mem => by
        refine Bool.eq_false_iff.mpr fun taken => ?_
        exact foreign claim mem (registered_of_has taken)
      have encodable := sound.encodable fits d.extensions sound.extensions.1 foreign
      have written : (d.plain clock).toMembers ++ d.extensions =
          ((d.plain clock).withOthers d.extensions).toMembers :=
        encodable.toMembers_eq.symm
      rw [finish_of_free passed nothing sound.extensions.1 free, written,
        ofMembers_of_decoded (encodable.decoded_refilled stable)]
      show _ = Except.ok ((if d.extensions.isEmpty = true then d.plain clock
        else (d.plain clock).refilled).withOthers d.extensions)
      rw [if_neg filled]
      rfl

/-- **No claim that is written is replaced.** -/
theorem agreesAt_of_finish (h : d.finish clock = .ok s)
    (written : (d.plain clock).toMembers.has name = true) :
    (if d.extensions.isEmpty then d.plain clock else (d.plain clock).refilled).AgreesAt s name := by
  obtain ⟨-, ⟨nothing, rfl⟩ | ⟨something, -, decoded⟩⟩ := built_of_finish sound.extensions.1 h
  · rw [if_pos (List.isEmpty_iff.mpr nothing)]
    exact agreesAt_refl _ _
  · rw [if_neg (mt List.isEmpty_iff.mp something)]
    exact (decoded_plain sound fits stable).agreesAt decoded (registered_of_has written)
      (get?_written written).symm

/-- The policies of a finished draft can be written and read again, wherever they come from. -/
lemma readable_of_decoded (decoded : Decoded ((d.plain clock).toMembers ++ d.extensions) s) :
    ∀ policies, s.metadataPolicy = some policies → Readable policies := by
  intro policies found
  cases written : (d.plain clock).toMembers.has "metadata_policy" with
  | true =>
      have agrees : s.metadataPolicy = (d.plain clock).refilled.metadataPolicy :=
        decoded.agreesAt (decoded_plain sound fits stable) (by decide) (get?_written written)
      exact sound.metadataPolicy policies (agrees.symm.trans found)
  | false =>
      have read := decoded.metadataPolicy
      rw [Members.get?_append, Option.not_isSome_iff_eq_none.mp (Bool.eq_false_iff.mp written),
        Option.none_or, found] at read
      exact readable_of_readPolicies
        (fun value given =>
          Json.allMembersWellFormed_iff.mp sound.extensions.2 _ (Members.mem_of_get? given)) read

/-- **Where there is no extension claim, a finished draft is written as its statement is.** -/
theorem get?_toMembers_of_finish (h : d.finish clock = .ok s) (registered : name ∈ registeredClaims)
    (absent : d.extensions.get? name = none) :
    s.toMembers.get? name = (d.plain clock).toMembers.get? name := by
  obtain ⟨-, ⟨-, rfl⟩ | ⟨-, -, decoded⟩⟩ := built_of_finish sound.extensions.1 h
  · rfl
  · have agrees := decoded.agreesAt (decoded_plain sound fits stable) registered (get?_of_absent absent)
    rw [← (d.plain clock).toMembers_refilled]
    exact get?_toMembers_of_agreesAt agrees registered decoded.separate (separate_plain d clock)

/-- What is written for a finished draft is read again. -/
lemma decoded_of_finish (h : d.finish clock = .ok s) (rereads : ∀ id ∈ s.identifiers, id.Stable) :
    Decoded s.toMembers s.refilled := by
  obtain ⟨-, ⟨-, rfl⟩ | ⟨-, free, decoded⟩⟩ := built_of_finish sound.extensions.1 h
  · exact decoded_plain sound fits stable
  · have distinct := distinct_of_free sound.extensions.1 free
    have readable := readable_of_decoded sound fits stable decoded
    exact (decoded.encodable distinct readable).decoded_refilled rereads

/-- **What is written for a finished draft is read as what the draft was read from**, up to empty lists of
names in constraints that come with the extension claims. -/
theorem sameReadings_of_finish (h : d.finish clock = .ok s)
    (rereads : ∀ id ∈ s.identifiers, id.Stable) :
    SameReadings (Option.map Constraints.refilled) ((d.plain clock).toMembers ++ d.extensions)
        s.toMembers ∧
      (d.extensions.get? "constraints" = none →
        SameReadings id ((d.plain clock).toMembers ++ d.extensions) s.toMembers) := by
  have again := decoded_of_finish sound fits stable h rereads
  obtain ⟨-, ⟨nothing, rfl⟩ | ⟨-, free, decoded⟩⟩ := built_of_finish sound.extensions.1 h
  · rw [nothing, List.append_nil]
    exact ⟨.refl _, fun _ => .refl _⟩
  · refine ⟨.of_decoded decoded again s.refilled_refilled.symm, fun absent => ?_⟩
    -- the constraints are those of the draft, in which there are no empty lists any more
    have agrees : s.constraints = (d.plain clock).refilled.constraints :=
      decoded.agreesAt (decoded_plain sound fits stable) (by decide) (get?_of_absent absent)
    rw [refilled_eq_self agrees] at again
    exact .of_decoded decoded again rfl

end Extended

/-- Where a registered name is free, an extension claim can be set behind all others. -/
lemma ofMembers_without (registered : name ∈ registeredClaims)
    (given : d.extensions.get? name = some value)
    (free : (d.plain clock).toMembers.get? name = none) :
    ofMembers ((d.plain clock).toMembers ++ d.extensions) =
      ofMembers (((d.plain clock).toMembers ++ (d.without name).extensions).insert name value) := by
  refine ofMembers_congr (fun other _ => ?_) ?_
  · by_cases same : name = other
    · subst same
      rw [Members.get?_append, free, given, Members.get?_insert_self]
      rfl
    · rw [Members.get?_insert_of_ne _ _ same, Members.get?_append, Members.get?_append, without,
        Members.get?_erase_of_ne same]
  · rw [otherClaims_insert registered, otherClaims, otherClaims, List.filter_append, List.filter_append,
      without, Members.erase, List.filter_filter]
    refine congrArg _ (List.filter_congr fun claim _ => ?_)
    by_cases same : claim.1 = name
    · simp [same, registered]
    · simp [same]

/-- What is read together with written constraints has no empty lists of names in them. -/
lemma refilled_ofMembers_insert {claims : Members Json} (decoded : Decoded claims s.refilled)
    (other : name ≠ "constraints") :
    (ofMembers (claims.insert name value)).map refilled = ofMembers (claims.insert name value) := by
  cases read : ofMembers (claims.insert name value) with
  | error failure => rfl
  | ok t =>
      have agrees : t.constraints = s.refilled.constraints :=
        (decoded_of_ofMembers read).agreesAt decoded (by decide) (Members.get?_insert_of_ne _ _ other)
      exact congrArg Except.ok (refilled_eq_self agrees)

/-- **An extension claim under a registered name is refused if that name is written without it**, and read
with the other claims if not.  Only empty lists in constraints that are another extension claim are lost
when these claims have been written before. -/
theorem finish_of_registered (sound : d.Sound) (fits : Lifetime.Fits clock)
    (stable : ∀ id ∈ (d.plain clock).identifiers, id.Stable) (registered : name ∈ registeredClaims)
    (given : d.extensions.get? name = some value) (built : (d.without name).finish clock = .ok s)
    (rereads : ∀ id ∈ s.identifiers, id.Stable) :
    (s.toMembers.has name = true → d.finish clock = .error (collision name)) ∧
      (s.toMembers.has name = false →
        ofClaims (.object (s.toMembers.insert name value)) =
          if (d.without name).extensions.has "constraints" then (d.finish clock).map refilled
          else d.finish clock) := by
  have sound' := sound.without name
  have absent : (d.without name).extensions.get? name = none := Members.get?_erase_self
  have something : d.extensions ≠ [] := fun nothing => by
    rw [nothing] at given
    cases given
  have inTime : ¬d.finalSecond clock ≤ d.start clock := (built_of_finish sound'.extensions.1 built).1
  have same : s.toMembers.get? name = (d.plain clock).toMembers.get? name :=
    get?_toMembers_of_finish (d := d.without name) sound' fits stable built registered absent
  have others : ∀ claim ∈ d.extensions, (d.plain clock).toMembers.has claim.1 = true →
      claim.1 = name := by
    intro claim mem taken
    by_contra differs
    have left : claim ∈ (d.without name).extensions :=
      List.mem_filter.mpr ⟨mem, by simpa using differs⟩
    obtain ⟨-, ⟨nothing, -⟩ | ⟨-, free, -⟩⟩ := built_of_finish sound'.extensions.1 built
    · rw [nothing] at left
      cases left
    · have untaken : (d.plain clock).toMembers.has claim.1 = false := free claim left
      rw [taken] at untaken
      cases untaken
  refine ⟨fun written => ?_, fun unwritten => ?_⟩
  · rw [Members.has, same] at written
    rw [finish_of_cons inTime something sound.extensions.1]
    cases found : d.extensions.find? fun claim => (d.plain clock).toMembers.has claim.1 with
    | none =>
        exact absurd written (List.find?_eq_none.mp found _ (Members.mem_of_get? given))
    | some claim =>
        have taken : (d.plain clock).toMembers.has claim.1 = true := by
          simpa using List.find?_some found
        have named := others claim (List.mem_of_find?_eq_some found) taken
        exact congrArg (fun name => Except.error (collision name)) named
  · rw [Members.has, same] at unwritten
    have free : d.Free clock := fun claim mem => by
      refine Bool.eq_false_iff.mpr fun taken => ?_
      rw [others claim mem taken, Members.has, unwritten] at taken
      cases taken
    have written : d.finish clock = ofMembers
        (((d.plain clock).toMembers ++ (d.without name).extensions).insert name value) :=
      (finish_of_free inTime something sound.extensions.1 free).trans
        (ofMembers_without registered given
          (Option.not_isSome_iff_eq_none.mp (Bool.eq_false_iff.mp unwritten)))
    obtain ⟨alike, exactly⟩ :=
      sameReadings_of_finish (d := d.without name) sound' fits stable built rereads
    rw [written]
    cases constrained : (d.without name).extensions.has "constraints" with
    | false =>
        have unconstrained := Option.not_isSome_iff_eq_none.mp (Bool.eq_false_iff.mp constrained)
        exact ((exactly unconstrained).insert registered value).ofMembers_eq.symm
    | true =>
        have other : name ≠ "constraints" := by
          rintro rfl
          rw [Members.has, absent] at constrained
          cases constrained
        have again := decoded_of_finish (d := d.without name) sound' fits stable built rereads
        exact (refilled_ofMembers_insert again other).symm.trans
          (alike.insert registered value).ofMembers.symm

/-- **Extension claims do not disturb what a draft says.**  Whatever has been made of read parts:

* Extension claims with names of their own are the other claims of the finished statement.  All else is as
  without them, but for empty lists of names in the constraints, which are none at all.  If the draft cannot
  be finished without them, it cannot with them.
* An extension claim with a registered name is refused if the statement without it is written with that
  name.  If not, the result is what is read from the claims of that statement when it is set among them.
  Only if the constraints are another extension claim, the result has the empty lists of names in them, which
  those claims have lost.
* What the statement without extension claims is written with is said by the finished one. -/
theorem extended_of_made (made : d.Made) (fits : Lifetime.Fits clock)
    (stable : ∀ id ∈ (d.plain clock).identifiers, id.Stable) :
    ((∀ claim ∈ d.extensions, claim.1 ∉ registeredClaims) →
      d.finish clock = (d.bare.finish clock).map fun s =>
        (if d.extensions.isEmpty then s else s.refilled).withOthers d.extensions) ∧
    (∀ name ∈ registeredClaims, ∀ value s, d.extensions.get? name = some value →
      (d.without name).finish clock = .ok s → (∀ id ∈ s.identifiers, id.Stable) →
        (s.toMembers.has name = true → d.finish clock = .error (collision name)) ∧
        (s.toMembers.has name = false →
          ofClaims (.object (s.toMembers.insert name value)) =
            if (d.without name).extensions.has "constraints" then (d.finish clock).map refilled
            else d.finish clock)) ∧
    ∀ s s', d.bare.finish clock = .ok s → d.finish clock = .ok s' →
      ∀ name, s.toMembers.has name = true →
        (if d.extensions.isEmpty then s else s.refilled).AgreesAt s' name := by
  have sound := made.sound
  refine ⟨finish_of_foreign sound fits stable, fun name registered value s given built rereads =>
    finish_of_registered sound fits stable registered given built rereads,
    fun s s' bare finished name written => ?_⟩
  obtain ⟨-, ⟨-, rfl⟩ | ⟨something, -⟩⟩ := built_of_finish (d := d.bare) List.nodup_nil bare
  · exact agreesAt_of_finish (d := d) sound fits stable finished written
  · exact absurd rfl something

/-! ### Drafts with extension claims -/

/-- The keys of a party. -/
def partyKeys : Json :=
  .object [("keys", .array [.object [("kty", .string "RSA"), ("n", .string "a")]])]

/-- Constraints with an empty list of names. -/
def emptyList : Json :=
  .object [("max_path_length", .int 1), ("naming_constraints", .object [("permitted", .array [])])]

/-- The statement of an authority about a party with given keys. -/
def aboutParty (keys : KeySet) : Draft :=
  about ⟨"https://authority"⟩ ⟨"https://party"⟩ keys

/-- The statement with constraints and an extension claim. -/
def extending (keys : KeySet) : Draft :=
  ((aboutParty keys).setConstraints ⟨some 1, some [], none⟩).setExtension "jti" (.string "1")

/-- The statement with constraints and an audience that are extension claims. -/
def constraining (keys : KeySet) : Draft :=
  ((aboutParty keys).setExtension "constraints" emptyList).setExtension "aud" (.string "https://anchor")

/-- The keys of this statement have been read, and its issuer and subject denote themselves. -/
lemma made_aboutParty {keys : KeySet} (read : KeySet.read partyKeys = .ok keys) :
    (aboutParty keys).Made ∧ ∀ id ∈ ((aboutParty keys).plain 0).identifiers, id.Stable := by
  have rereads : ∀ id ∈ [(⟨"https://authority"⟩ : EntityId), ⟨"https://party"⟩],
      (EntityId.read id.text).toOption = some id := by
    decide +kernel
  exact ⟨.about _ _ read, fun id mem => Except.toOption_eq_some_iff.mp (rereads id mem)⟩

/-- The draft is finished without the empty list.  A further claim is read with it, unless it has the name
of one that is written. -/
theorem extended_of_made_extending :
    ∃ keys s, KeySet.read partyKeys = .ok keys ∧ (extending keys).finish 0 = .ok s ∧
      s.constraints = some ⟨some 1, none, none⟩ ∧ s.others = [("jti", .string "1")] ∧
      ((extending keys).setExtension "crit" (.array [.string "jti"])).finish 0 =
        ofClaims (.object (s.toMembers.insert "crit" (.array [.string "jti"]))) ∧
      ((extending keys).setExtension "iat" (.int 5)).finish 0 = .error (collision "iat") := by
  obtain ⟨keys, read⟩ : ∃ keys, KeySet.read partyKeys = .ok keys := ⟨_, rfl⟩
  obtain ⟨about, stable⟩ := made_aboutParty read
  have constraints : Constraints.read emptyList = .ok ⟨some 1, some [], none⟩ := rfl
  have made : (extending keys).Made := .setExtension (.setConstraints about constraints) "jti" trivial
  have fits : Lifetime.Fits 0 := by decide
  have foreign : ∀ claim ∈ (extending keys).extensions, claim.1 ∉ registeredClaims := by
    intro claim mem
    rw [List.mem_singleton.mp mem]
    decide
  have built : (extending keys).finish 0 =
      .ok (((extending keys).plain 0).refilled.withOthers [("jti", .string "1")]) :=
    (extended_of_made made fits stable).1 foreign
  have critical : (Json.array [.string "jti"]).WellFormed := ⟨trivial, trivial⟩
  have time : (Json.int 5).WellFormed := trivial
  refine ⟨keys, _, read, built, rfl, rfl, ?_, ?_⟩
  · have made' := made.setExtension "crit" critical
    obtain ⟨-, single, -⟩ := extended_of_made made' fits stable
    exact ((single "crit" (by decide) _ _ rfl built stable).2 rfl).symm
  · have made' := made.setExtension "iat" time
    obtain ⟨-, single, -⟩ := extended_of_made made' fits stable
    exact (single "iat" (by decide) _ _ rfl built stable).1 rfl

/-- **Constraints that are an extension claim keep an empty list, which their written form loses.**  A draft
with such constraints and an audience is finished with the list.  Its claims without the audience do not have
it any more when the audience is set among them. -/
theorem kept_constraining :
    ∃ keys s full again, KeySet.read partyKeys = .ok keys ∧ (constraining keys).Made ∧
      (∀ id ∈ ((constraining keys).plain 0).identifiers, id.Stable) ∧
      ((constraining keys).without "aud").finish 0 = .ok s ∧ (∀ id ∈ s.identifiers, id.Stable) ∧
      s.toMembers.has "aud" = false ∧
      (constraining keys).finish 0 = .ok full ∧
      ofClaims (.object (s.toMembers.insert "aud" (.string "https://anchor"))) = .ok again ∧
      full.constraints = some ⟨some 1, some [], none⟩ ∧
      again.constraints = some ⟨some 1, none, none⟩ := by
  have evaluated : ((KeySet.read partyKeys).toOption.bind fun keys =>
      (((constraining keys).without "aud").finish 0).toOption.bind fun s =>
      ((constraining keys).finish 0).toOption.bind fun full =>
      (ofClaims (.object (s.toMembers.insert "aud" (.string "https://anchor")))).toOption.map fun again =>
        (decide (∀ id ∈ s.identifiers, (EntityId.read id.text).toOption = some id),
          s.toMembers.has "aud", full.constraints, again.constraints)) =
      some (true, false, some ⟨some 1, some [], none⟩, some ⟨some 1, none, none⟩) := by
    decide +kernel
  obtain ⟨keys, read, evaluated⟩ := Option.bind_eq_some_iff.mp evaluated
  obtain ⟨s, before, evaluated⟩ := Option.bind_eq_some_iff.mp evaluated
  obtain ⟨full, finished, evaluated⟩ := Option.bind_eq_some_iff.mp evaluated
  obtain ⟨again, decoded, found⟩ := Option.map_eq_some_iff.mp evaluated
  rw [Except.toOption_eq_some_iff] at read before finished decoded
  rw [Prod.mk.injEq, Prod.mk.injEq, Prod.mk.injEq, decide_eq_true_eq] at found
  obtain ⟨rereads, free, kept, lost⟩ := found
  obtain ⟨about, stable⟩ := made_aboutParty read
  have wellFormed : emptyList.WellFormed := by
    simp [emptyList, Json.int, Json.WellFormed, Json.AllMembersWellFormed, Json.AllWellFormed,
      Members.Distinct]
  have made : (constraining keys).Made :=
    .setExtension (.setExtension about "constraints" wellFormed) "aud" trivial
  exact ⟨keys, s, full, again, read, made, stable, before,
    fun id mem => Except.toOption_eq_some_iff.mp (rereads id mem), free, finished, decoded, kept, lost⟩

end Federation.Statement.Draft
