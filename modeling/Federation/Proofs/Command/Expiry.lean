import Federation.Proofs.Command.Sign
import Federation.Proofs.Drafts

/-!
# The end that statements are given

A statement whose end is not given is valid for a day, and the end of that day is a sum of 64 bits.  A
draft and the command that signs claims add it up each on its own.

**Drafts.**  A finished draft says the times it was given (`Statement.Draft.times_of_finish`).  It must end
after it begins, so a sum that wraps around is never finished.

**Signing.**  The command sets the times that are missing in the claims
(`Command.expiresAt_of_withTimes`), and nothing after that compares them.

**The theorem.**  `Command.expiry_of_defaults` says of both which end a statement gets.  In the last day of
all times the command signs a statement that ends before it begins (`Command.lastDay_signed`).
-/

namespace Federation

open Lifetime

/-! ### Drafts -/

namespace Statement.Draft

variable {d : Draft} {clock : Int} {s : Statement}

/-- **A finished draft says the times it was given**, whatever its extension claims. -/
theorem times_of_finish (distinct : d.extensions.Distinct) (fits : Fits (d.start clock))
    (ends : Fits (d.finalSecond clock)) (h : d.finish clock = .ok s) :
    s.issuedAt = d.start clock ∧ s.expiresAt = d.finalSecond clock := by
  obtain ⟨-, ⟨-, rfl⟩ | ⟨-, -, decoded⟩⟩ := built_of_finish distinct h
  · exact ⟨rfl, rfl⟩
  · have found : ∀ name value, (name, some value) ∈ (d.plain clock).places →
        ((d.plain clock).toMembers ++ d.extensions).get? name = some value := by
      intro name value mem
      have written : (d.plain clock).toMembers.get? name = some value :=
        get?_toMembers (separate_plain d clock) mem
      rw [get?_written (by rw [Members.has, written, Option.isSome_some]), written]
    have begins := readTime_of_get? (found "iat" (.int (d.start clock)) (by simp [places, plain]))
      (int64?_int_iff.mpr fits)
    have finishes := readTime_of_get?
      (found "exp" (.int (d.finalSecond clock)) (by simp [places, plain])) (int64?_int_iff.mpr ends)
    exact ⟨Except.ok.inj (decoded.issuedAt.symm.trans begins),
      Except.ok.inj (decoded.expiresAt.symm.trans finishes)⟩

/-- An end that wraps around lies before the beginning, so the draft is refused. -/
lemma finish_of_lastDay (unended : d.expiresAt = none) (fits : Fits (d.start clock))
    (late : ¬Fits (d.start clock + length)) : ∃ failure, d.finish clock = .error failure := by
  refine ⟨_, finish_of_passed ?_⟩
  rw [finalSecond, unended, Option.getD_none, endOf_eq fits, if_neg late, length]
  omega

/-- A draft that is finished without an end of its own ends when a lifetime has passed. -/
lemma lifetime_of_finish (distinct : d.extensions.Distinct) (unended : d.expiresAt = none)
    (fits : Fits (d.start clock)) (h : d.finish clock = .ok s) :
    s.issuedAt = d.start clock ∧ s.expiresAt = s.issuedAt + length ∧ s.issuedAt < s.expiresAt := by
  have ends : d.finalSecond clock = endOf (d.start clock) := by
    rw [finalSecond, unended, Option.getD_none]
  obtain ⟨begins, finishes⟩ := times_of_finish distinct fits (ends ▸ fits_endOf _) h
  by_cases inTime : Fits (d.start clock + length)
  · rw [ends, endOf_eq fits, if_pos inTime] at finishes
    rw [begins, finishes, length]
    exact ⟨rfl, rfl, by omega⟩
  · obtain ⟨failure, refused⟩ := finish_of_lastDay unended fits inTime
    rw [refused] at h
    cases h

end Statement.Draft

/-! ### Signing -/

namespace Statement

variable {claims : Members Json} {claim : String} {seconds : Int}

lemma exists_of_readTime (h : readTime claims claim = .ok seconds) :
    ∃ written, claims.get? claim = some written ∧ written.int64? = some seconds := by
  obtain ⟨written, required, h⟩ := Except.bind_eq_ok_iff.mp h
  rw [readRequired] at required
  split at required
  · rename_i found
    cases required
    split at h
    · rename_i number
      cases h
      exact ⟨written, found, number⟩
    · cases h
  · cases required

end Statement

namespace Command

open Work

variable {members : Members Json} {now : Int} {statement : Statement}

/-- The end is set last, a lifetime after the time of issue that is read. -/
lemma exists_dated (now : Int) (unended : members.has "exp" = false) :
    ∃ (dated : Members Json) (issuedAt : Int),
      withTimes members now = dated.insert "exp" (.int (endOf issuedAt)) ∧
        ∀ written seconds, dated.get? "iat" = some written → written.int64? = some seconds →
          issuedAt = seconds := by
  obtain ⟨issuedAt, issued⟩ :
      ∃ issuedAt, ((members.get? "iat").bind Json.int64?).getD now = issuedAt := ⟨_, rfl⟩
  by_cases given : members.has "iat" = true
  · refine ⟨members, issuedAt, ?_, fun written seconds found number => ?_⟩
    · rw [withTimes, issued, if_pos given, if_neg (Bool.eq_false_iff.mp unended)]
    · rw [found, Option.bind_some, number] at issued
      exact issued.symm
  · have open_ended : ¬(members.insert "iat" (.int issuedAt)).has "exp" = true := by
      rw [Members.has, Members.get?_insert_of_ne _ _ (by decide)]
      exact Bool.eq_false_iff.mp unended
    refine ⟨members.insert "iat" (.int issuedAt), issuedAt, ?_, fun written seconds found number => ?_⟩
    · rw [withTimes, issued, if_neg given, if_neg open_ended]
    · rw [Members.get?_insert_self] at found
      cases found
      exact eq_of_int64?_int number

/-- **Claims without an end are given one**, a lifetime after the statement is issued. -/
theorem expiresAt_of_withTimes (unended : members.has "exp" = false)
    (made : Statement.ofMembers (withTimes members now) = .ok statement) :
    Fits statement.issuedAt ∧ statement.expiresAt = endOf statement.issuedAt := by
  have decoded := Statement.decoded_of_ofMembers made
  obtain ⟨dated, issuedAt, whole, read⟩ := exists_dated now unended
  obtain ⟨written, found, number⟩ := Statement.exists_of_readTime decoded.issuedAt
  rw [whole, Members.get?_insert_of_ne _ _ (by decide)] at found
  have ends : Statement.readTime (withTimes members now) "exp" = .ok (endOf issuedAt) := by
    refine Statement.readTime_of_get? ?_ (int64?_int_iff.mpr (fits_endOf issuedAt))
    rw [whole, Members.get?_insert_self]
  have fits := int64?_int_iff.mp (Statement.int64?_of_readTime decoded.issuedAt)
  rw [← read written _ found number] at fits ⊢
  exact ⟨fits, Except.ok.inj (decoded.expiresAt.symm.trans ends)⟩

/-! ### The theorem -/

/-- **What end a statement gets that is given none.**

* A draft is finished with the end of a lifetime after its time of issue, over the integers.  In the last
  day of all times, where there is no such end, it is refused.
* A command that signs has found a statement in its files and delivers its signed form.  If the claims have
  no end, the statement ends a lifetime after it is issued where there is such a time.  In the last day of
  all times it is signed too, and ends before it is issued. -/
theorem expiry_of_defaults (d : Statement.Draft) (clock : Int) (i : Invocation) (s : Surroundings)
    (keyPath claimsPath : String) (noStore : Bool) (desk : Desk) :
    (d.extensions.Distinct → d.expiresAt = none → Fits (d.start clock) →
      (∀ finished, d.finish clock = .ok finished → finished.issuedAt = d.start clock ∧
        finished.expiresAt = finished.issuedAt + length ∧ finished.issuedAt < finished.expiresAt) ∧
      (¬Fits (d.start clock + length) → ∃ failure, d.finish clock = .error failure)) ∧
    ((sign i s keyPath claimsPath noStore desk).1 = .ok () →
      ∃ key members statement, Issues s keyPath claimsPath desk key members statement ∧
        sign i s keyPath claimsPath noStore desk =
          deliver i s key statement (Jws.signed statement.toClaims key).joined noStore desk ∧
        (members.has "exp" = false → Fits statement.issuedAt ∧
          (Fits (statement.issuedAt + length) →
            statement.expiresAt = statement.issuedAt + length ∧
              statement.issuedAt < statement.expiresAt) ∧
          (¬Fits (statement.issuedAt + length) →
            statement.expiresAt = statement.issuedAt + length - 0x10000000000000000 ∧
              statement.expiresAt < statement.issuedAt))) := by
  refine ⟨fun distinct unended fits =>
    ⟨fun finished h => Statement.Draft.lifetime_of_finish distinct unended fits h,
      Statement.Draft.finish_of_lastDay unended fits⟩, fun signed => ?_⟩
  obtain ⟨key, members, statement, issues⟩ := issues_of_sign signed
  refine ⟨key, members, statement, issues, issues.sign_eq, fun unended => ?_⟩
  obtain ⟨fits, ends⟩ := expiresAt_of_withTimes unended issues.made
  rw [endOf_eq fits] at ends
  refine ⟨fits, fun inTime => ?_, fun late => ?_⟩
  · rw [if_pos inTime] at ends
    rw [ends, length]
    exact ⟨rfl, by omega⟩
  · rw [if_neg late] at ends
    rw [ends, length]
    exact ⟨rfl, by omega⟩

/-! ### Claims without an end -/

/-- Claims of an authority about a party, without an end. -/
def unendedClaims (issuedAt : Int) : Members Json :=
  [("iss", .string "https://authority"), ("sub", .string "https://party"), ("iat", .int issuedAt),
    ("jwks", .object [("keys", .array [])])]

/-- What the authority states, with an end. -/
def unendedStatement (issuedAt expiresAt : Int) : Statement where
  issuer := ⟨"https://authority"⟩
  subject := ⟨"https://party"⟩
  issuedAt := issuedAt
  expiresAt := expiresAt
  keys := ⟨[]⟩
  audience := none
  metadata := []
  metadataPolicy := none
  constraints := none
  authorityHints := none
  critical := []
  policyCritical := []
  others := []

/-- Signs the claims in a file and prints the signed statement. -/
def printingInvocation : Invocation := ⟨none, false, .sign "party.key" "party.json" true⟩

lemma read_authority : EntityId.read "https://authority" = .ok ⟨"https://authority"⟩ := by
  rw [← Except.toOption_eq_some_iff]
  decide +kernel

/-- The claims make the statement with the end that they are given. -/
lemma ofMembers_unendedClaims {issuedAt : Int} (fits : Fits issuedAt) (now : Int) :
    Statement.ofMembers (withTimes (unendedClaims issuedAt) now) =
      .ok (unendedStatement issuedAt (endOf issuedAt)) := by
  have number := int64?_int_iff.mpr fits
  have dated : withTimes (unendedClaims issuedAt) now =
      (unendedClaims issuedAt).insert "exp" (.int (endOf issuedAt)) := by
    have issued : ((unendedClaims issuedAt).get? "iat").bind Json.int64? = some issuedAt := number
    rw [withTimes, issued]
    rfl
  have issuer : Statement.readId ((unendedClaims issuedAt).insert "exp" (.int (endOf issuedAt))) "iss" =
      .ok ⟨"https://authority"⟩ := read_authority
  have subject : Statement.readId ((unendedClaims issuedAt).insert "exp" (.int (endOf issuedAt))) "sub" =
      .ok ⟨"https://party"⟩ := read_party
  have begins : Statement.readTime ((unendedClaims issuedAt).insert "exp" (.int (endOf issuedAt))) "iat" =
      .ok issuedAt := Statement.readTime_of_get? rfl number
  have ends : Statement.readTime ((unendedClaims issuedAt).insert "exp" (.int (endOf issuedAt))) "exp" =
      .ok (endOf issuedAt) := Statement.readTime_of_get? rfl (int64?_int_iff.mpr (fits_endOf issuedAt))
  rw [dated, Statement.ofMembers, issuer, subject, begins, ends]
  rfl

/-- The claims are signed, whenever the statement is issued. -/
lemma issues_unendedClaims {issuedAt : Int} (fits : Fits issuedAt)
    (parsed : Json.parse? (Json.object (unendedClaims issuedAt)).compact =
      some (.object (unendedClaims issuedAt))) :
    Issues partySurroundings "party.key" "party.json" (claimsDesk (unendedClaims issuedAt)) partyKey
      (unendedClaims issuedAt) (unendedStatement issuedAt (endOf issuedAt)) := by
  obtain ⟨keyText, claimsText⟩ := textAt?_claimsDesk (unendedClaims issuedAt)
  exact
    { keyRead := readKey_of_text rfl keyText
      claimsRead := readObject_of_text parsed claimsText
      made := ofMembers_unendedClaims fits _
      complete := rfl
      published := nofun }

/-- What the authority states about the party, as a draft without an end. -/
def unendedDraft : Statement.Draft :=
  (Statement.Draft.about ⟨"https://authority"⟩ ⟨"https://party"⟩ .empty).issuedFrom 0

/-- A statement that is issued at time 0 ends a day later, whether it is finished from a draft or signed. -/
theorem expiry_of_defaults_unended :
    (∃ s, unendedDraft.finish 50 = .ok s ∧ s.expiresAt = 86400) ∧
      (sign printingInvocation partySurroundings "party.key" "party.json" true
        (claimsDesk (unendedClaims 0))).1 = .ok () ∧
      ∃ key statement,
        Issues partySurroundings "party.key" "party.json" (claimsDesk (unendedClaims 0)) key
          (unendedClaims 0) statement ∧ statement.issuedAt = 0 ∧ statement.expiresAt = 86400 := by
  obtain ⟨drafts, signs⟩ := expiry_of_defaults unendedDraft 50 printingInvocation partySurroundings
    "party.key" "party.json" true (claimsDesk (unendedClaims 0))
  have issues : Issues partySurroundings "party.key" "party.json" (claimsDesk (unendedClaims 0)) partyKey
      (unendedClaims 0) (unendedStatement 0 (endOf 0)) :=
    issues_unendedClaims (by decide) (Json.parse?_compact rfl rfl)
  have signed : (sign printingInvocation partySurroundings "party.key" "party.json" true
      (claimsDesk (unendedClaims 0))).1 = .ok () := by
    rw [issues.sign_eq]
    rfl
  have finished : unendedDraft.finish 50 = .ok (unendedDraft.plain 50) := rfl
  obtain ⟨begins, ends, -⟩ := (drafts List.nodup_nil rfl (by decide)).1 _ finished
  obtain ⟨key, members, statement, found, -, lifetime⟩ := signs signed
  cases issues.keyRead.symm.trans found.keyRead
  cases issues.claimsRead.symm.trans found.claimsRead
  cases issues.made.symm.trans found.made
  obtain ⟨-, inTime, -⟩ := lifetime rfl
  exact ⟨⟨_, finished, ends.trans (by rw [begins]; rfl)⟩, signed, _, _, found, rfl,
    (inTime (by decide)).1⟩

/-- **A statement is signed that ends before it begins.**  It is issued in the last second of all times,
and its end wraps around. -/
theorem lastDay_signed :
    (sign printingInvocation partySurroundings "party.key" "party.json" true
        (claimsDesk (unendedClaims 0x7fffffffffffffff))).1 = .ok () ∧
      Members.has (unendedClaims 0x7fffffffffffffff) "exp" = false ∧
      ∃ statement,
        Issues partySurroundings "party.key" "party.json"
          (claimsDesk (unendedClaims 0x7fffffffffffffff)) partyKey (unendedClaims 0x7fffffffffffffff)
          statement ∧
        sign printingInvocation partySurroundings "party.key" "party.json" true
            (claimsDesk (unendedClaims 0x7fffffffffffffff)) =
          deliver printingInvocation partySurroundings partyKey statement
            (Jws.signed statement.toClaims partyKey).joined true
            (claimsDesk (unendedClaims 0x7fffffffffffffff)) ∧
        statement.issuedAt = 9223372036854775807 ∧ statement.expiresAt = -9223372036854689409 ∧
        statement.expiresAt < statement.issuedAt := by
  have issues : Issues partySurroundings "party.key" "party.json"
      (claimsDesk (unendedClaims 0x7fffffffffffffff)) partyKey (unendedClaims 0x7fffffffffffffff)
      (unendedStatement 0x7fffffffffffffff (endOf 0x7fffffffffffffff)) :=
    issues_unendedClaims (by decide) (Json.parse?_compact rfl rfl)
  have ends : endOf 0x7fffffffffffffff = -9223372036854689409 := by decide
  refine ⟨?_, rfl, _, issues, issues.sign_eq, rfl, ends, ?_⟩
  · rw [issues.sign_eq]
    rfl
  · show endOf 0x7fffffffffffffff < 0x7fffffffffffffff
    rw [ends]
    decide

end Command

end Federation
