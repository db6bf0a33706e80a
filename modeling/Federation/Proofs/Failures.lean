import Federation.Proofs.Checks
import Federation.Resolution.Sources

/-!
# What can go wrong where

A resolution has sixteen kinds of failures, and each part of it can run into a few of them only.

**Postconditions of failure.**  `Except.FailsOnly` says that a check fails in certain ways only.  It is
kept by sequences of checks, so what a reader can fail with follows from what its steps can.

**Readers.**  Whatever is wrong with the claims of a statement, they are malformed
(`Statement.ofClaims_failsOnly`).

**Verifiers.**  A verifier is `Verifier.Plain` if it reports nothing but malformed texts, bad signatures
and invalid keys.  The Ed25519 verifier does (`Verifier.ed25519_plain`).
-/

namespace Federation

/-! ### Postconditions of failure -/

/-- The check succeeds, or fails in one of certain ways. -/
def Except.FailsOnly {α : Type} (P : Failure → Prop) (x : Except Failure α) : Prop :=
  ∀ failure, x = .error failure → P failure

namespace Except.FailsOnly

variable {α β : Type} {P Q : Failure → Prop} {x : Except Failure α}

lemma ok (a : α) : FailsOnly P (.ok a) := by
  intro failure h
  cases h

lemma error {failure : Failure} (holds : P failure) :
    FailsOnly P (.error failure : Except Failure α) := by
  intro failure' h
  cases h
  exact holds

lemma bind {f : α → Except Failure β} (first : FailsOnly P x) (second : ∀ a, FailsOnly P (f a)) :
    FailsOnly P (x >>= f) := by
  intro failure h
  cases x with
  | error e => exact first failure (by cases h; rfl)
  | ok a => exact second a failure h

lemma map {f : α → β} (first : FailsOnly P x) : FailsOnly P (x.map f) := by
  intro failure h
  cases x with
  | error e => exact first failure (by cases h; rfl)
  | ok a => cases h

/-- Other words for a failure decide what it is. -/
lemma mapError {ε : Type} {x : Except ε α} {f : ε → Failure} (holds : ∀ e, P (f e)) :
    FailsOnly P (x.mapError f) := by
  intro failure h
  cases x with
  | error e =>
      cases h
      exact holds e
  | ok a => cases h

lemma mono (first : FailsOnly P x) (weaker : ∀ failure, P failure → Q failure) : FailsOnly Q x :=
  fun failure h => weaker failure (first failure h)

lemma mapM {f : α → Except Failure β} (items : List α) (each : ∀ item, FailsOnly P (f item)) :
    FailsOnly P (items.mapM f) := by
  induction items with
  | nil => exact ok []
  | cons item rest ih =>
      rw [List.mapM_cons]
      exact (each item).bind fun b => ih.bind fun bs => ok (b :: bs)

lemma foldlM {f : β → α → Except Failure β} (items : List α)
    (round : ∀ b item, FailsOnly P (f b item)) (init : β) : FailsOnly P (items.foldlM f init) := by
  induction items generalizing init with
  | nil => exact ok init
  | cons item rest ih =>
      rw [List.foldlM_cons]
      exact (round init item).bind ih

lemma forM {f : α → Except Failure Unit} (items : List α) (each : ∀ item, FailsOnly P (f item)) :
    FailsOnly P (items.forM f) := by
  intro failure h
  obtain ⟨item, _, failed⟩ := List.exists_of_forM_eq_error h
  exact each item failure failed

end Except.FailsOnly

open Federation.Except (FailsOnly)

/-! ### Readers -/

/-- Something written cannot be read. -/
def Failure.IsMalformed (failure : Failure) : Prop :=
  ∃ detail, failure = .malformed detail

/-- A reader that gives up says so. -/
lemma Except.failsOnly_malformed {α : Type} (detail : String) :
    FailsOnly Failure.IsMalformed (.error (.malformed detail) : Except Failure α) :=
  .error ⟨detail, rfl⟩

open Federation.Except (failsOnly_malformed)

lemma EntityId.read_failsOnly (text : String) : FailsOnly Failure.IsMalformed (EntityId.read text) :=
  .mapError fun defect => ⟨defect.message, rfl⟩

namespace Constraints

lemma readPathLength_failsOnly (written : Option Json) :
    FailsOnly Failure.IsMalformed (readPathLength written) := by
  unfold readPathLength
  split
  · exact .ok _
  · exact .ok _
  · split
    · exact failsOnly_malformed _
    · split
      · exact .ok _
      · exact failsOnly_malformed _

lemma readIds_failsOnly (claim : String) (written : Json) :
    FailsOnly Failure.IsMalformed (readIds claim written) := by
  unfold readIds
  split
  · refine .mapM _ fun item => ?_
    unfold readId
    split
    · exact EntityId.read_failsOnly _
    · exact failsOnly_malformed _
  · exact failsOnly_malformed _

lemma readNames_failsOnly (claim : String) (written : Option Json) :
    FailsOnly Failure.IsMalformed (readNames claim written) := by
  unfold readNames
  split
  · exact .ok _
  · exact (readIds_failsOnly claim _).map

lemma read_failsOnly (written : Json) : FailsOnly Failure.IsMalformed (read written) := by
  unfold read
  split
  · unfold readMembers
    refine (readPathLength_failsOnly _).bind fun maxPathLength => ?_
    split
    · exact .ok _
    · exact .ok _
    · exact (readNames_failsOnly _ _).bind fun _ => (readNames_failsOnly _ _).bind fun _ => .ok _
    · exact failsOnly_malformed _
  · exact failsOnly_malformed _

end Constraints

namespace Statement

lemma readRequired_failsOnly (claims : Members Json) (claim : String) :
    FailsOnly Failure.IsMalformed (readRequired claims claim) := by
  unfold readRequired
  split
  · exact .ok _
  · exact failsOnly_malformed _

lemma readId_failsOnly (claims : Members Json) (claim : String) :
    FailsOnly Failure.IsMalformed (readId claims claim) := by
  refine (readRequired_failsOnly claims claim).bind fun value => ?_
  split
  · exact EntityId.read_failsOnly _
  · exact failsOnly_malformed _

lemma readTime_failsOnly (claims : Members Json) (claim : String) :
    FailsOnly Failure.IsMalformed (readTime claims claim) := by
  refine (readRequired_failsOnly claims claim).bind fun value => ?_
  split
  · exact .ok _
  · exact failsOnly_malformed _

lemma readObject_failsOnly (claim : String) (value : Json) :
    FailsOnly Failure.IsMalformed (readObject claim value) := by
  unfold readObject
  split
  · exact .ok _
  · exact failsOnly_malformed _

lemma mapM_readText_failsOnly (claim : String) (items : List Json) :
    FailsOnly Failure.IsMalformed (items.mapM (readText claim)) := by
  refine .mapM items fun item => ?_
  unfold readText
  split
  · exact .ok _
  · exact failsOnly_malformed _

lemma readAudience_failsOnly (written : Option Json) :
    FailsOnly Failure.IsMalformed (readAudience written) := by
  unfold readAudience
  split
  · exact .ok _
  · exact .ok _
  · exact .ok _
  · exact (mapM_readText_failsOnly "aud" _).map
  · exact failsOnly_malformed _

lemma readMetadata_failsOnly (written : Option Json) :
    FailsOnly Failure.IsMalformed (readMetadata written) := by
  unfold readMetadata
  split
  · exact .ok _
  · refine (readObject_failsOnly _ _).bind fun members => .foldlM members (fun metadata entry => ?_) []
    unfold readMetadataEntry
    split
    · exact .ok _
    · exact failsOnly_malformed _

lemma readPolicies_failsOnly (written : Option Json) :
    FailsOnly Failure.IsMalformed (readPolicies written) := by
  unfold readPolicies
  split
  · exact .ok _
  · exact .ok _
  · refine (readObject_failsOnly _ _).bind fun members => ?_
    refine FailsOnly.bind (.foldlM members (fun policies entry => ?_) []) fun _ => .ok _
    have read : FailsOnly Failure.IsMalformed (Policy.read entry.2) :=
      .mapError fun defect => ⟨defect.message, rfl⟩
    exact read.bind fun _ => .ok _

lemma readConstraints_failsOnly (written : Option Json) :
    FailsOnly Failure.IsMalformed (readConstraints written) := by
  unfold readConstraints
  split
  · exact .ok _
  · exact .ok _
  · exact (Constraints.read_failsOnly _).map

lemma readHints_failsOnly (written : Option Json) :
    FailsOnly Failure.IsMalformed (readHints written) := by
  unfold readHints
  split
  · exact .ok _
  · exact .ok _
  · exact (Constraints.readIds_failsOnly _ _).map

lemma readTexts_failsOnly (claims : Members Json) (claim : String) :
    FailsOnly Failure.IsMalformed (readTexts claims claim) := by
  unfold readTexts
  split
  · exact .ok _
  · exact .ok _
  · exact mapM_readText_failsOnly claim _
  · exact failsOnly_malformed _

/-- **Claims that make no statement are malformed.** -/
theorem ofClaims_failsOnly (claims : Json) : FailsOnly Failure.IsMalformed (ofClaims claims) := by
  unfold ofClaims
  split
  · rename_i members
    have keys : ∀ value, FailsOnly Failure.IsMalformed (KeySet.read value) :=
      fun _ => .mapError fun why => ⟨_, rfl⟩
    refine (readId_failsOnly members "iss").bind fun _ => ?_
    refine (readId_failsOnly members "sub").bind fun _ => ?_
    refine (readTime_failsOnly members "iat").bind fun _ => ?_
    refine (readTime_failsOnly members "exp").bind fun _ => ?_
    refine (readRequired_failsOnly members "jwks").bind fun value => (keys value).bind fun _ => ?_
    refine (readAudience_failsOnly _).bind fun _ => ?_
    refine (readMetadata_failsOnly _).bind fun _ => ?_
    refine (readPolicies_failsOnly _).bind fun _ => ?_
    refine (readConstraints_failsOnly _).bind fun _ => ?_
    refine (readHints_failsOnly _).bind fun _ => ?_
    refine (readTexts_failsOnly members "crit").bind fun _ => ?_
    exact (readTexts_failsOnly members "policy_language_crit").bind fun _ => .ok _
  · exact failsOnly_malformed _

end Statement

/-! ### Verifiers -/

/-- The text is malformed, its signature is bad or a key is invalid. -/
def Failure.IsPlain : Failure → Prop
  | malformed _ => True
  | badSignature _ => True
  | invalidKey _ => True
  | _ => False

lemma Failure.IsMalformed.isPlain {failure : Failure} (malformed : failure.IsMalformed) :
    failure.IsPlain := by
  obtain ⟨detail, rfl⟩ := malformed
  trivial

namespace Jws

lemma readPart_failsOnly (part : String) : FailsOnly Failure.IsMalformed (readPart part) := by
  unfold readPart
  split
  · exact failsOnly_malformed _
  · exact .ok _

lemma read_failsOnly (raw : String) : FailsOnly Failure.IsMalformed (read raw) := by
  unfold read
  split
  · rename_i headerPart claimsPart signaturePart _
    have header : FailsOnly Failure.IsMalformed (readHeader headerPart) := by
      refine (readPart_failsOnly headerPart).bind fun bytes => ?_
      split
      · exact .ok _
      · exact failsOnly_malformed _
    exact header.bind fun _ => .ok _
  · exact failsOnly_malformed _

lemma unverifiedClaims_failsOnly (jws : Jws) :
    FailsOnly Failure.IsMalformed jws.unverifiedClaims := by
  refine (readPart_failsOnly jws.claimsPart).bind fun bytes => ?_
  split
  · exact failsOnly_malformed _
  · split
    · exact failsOnly_malformed _
    · split
      · exact .ok _
      · exact failsOnly_malformed _
      · exact failsOnly_malformed _

lemma verifyAny_failsOnly (jws : Jws) (keys : List Key) :
    FailsOnly Failure.IsPlain (jws.verifyAny keys) := by
  induction keys with
  | nil => exact .error trivial
  | cons key rest ih =>
      rw [verifyAny]
      split
      · exact ih
      · split
        · exact .error trivial
        · split
          · exact jws.unverifiedClaims_failsOnly.mono fun _ => Failure.IsMalformed.isPlain
          · exact ih

lemma verify_failsOnly (jws : Jws) (keys : KeySet) :
    FailsOnly Failure.IsPlain (jws.verify keys) := by
  unfold verify
  split
  · exact .error trivial
  · split
    · exact .error trivial
    · exact jws.verifyAny_failsOnly _

end Jws

namespace Verifier

/-- The verifier reports nothing but malformed texts, bad signatures and invalid keys. -/
structure Plain (v : Verifier) : Prop where
  verify : ∀ raw keys, FailsOnly Failure.IsPlain (v.verify raw keys)
  peek : ∀ raw, FailsOnly Failure.IsPlain (v.peek raw)

/-- **The Ed25519 verifier is plain.** -/
theorem ed25519_plain : ed25519.Plain where
  verify raw keys :=
    ((Jws.read_failsOnly raw).mono fun _ => Failure.IsMalformed.isPlain).bind fun jws =>
      jws.verify_failsOnly keys
  peek raw :=
    ((Jws.read_failsOnly raw).bind Jws.unverifiedClaims_failsOnly).mono fun _ =>
      Failure.IsMalformed.isPlain

end Verifier

end Federation
