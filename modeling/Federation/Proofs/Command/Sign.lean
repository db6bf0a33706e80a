import Federation.Proofs.Command.Work
import Federation.Proofs.Encoding
import Federation.Proofs.Resolution.Steps
import Federation.Proofs.Signing
import Federation.Proofs.Storage.StatementStore

/-!
# Signed configurations and their keys

Signing on the command line asks a configuration to publish the signing key, and looks for the identifier
of the key only.  Whether the configuration is accepted afterwards is decided by the material that is
published under it.

**Survival.**  Claims are written and read again on the way.  `Statement.Survives` says that nothing is
lost there.

**One command.**  `Issues` is what a command that signs has found in its files (`issues_of_sign`), and
`Signs` what one that has signed and stored a statement has done (`signs_of_sign`).  The store it leaves
behind is the one that is opened next.

**The theorem.**  `configuration_of_sign` says when the configuration is accepted: if and only if the
first published key of the identifier verifies it.  The public half of the signing key does
(`Key.verifies_of_own`); another key under its identifier does not, and then a configuration has been
stored that nobody accepts (`misnamed_refused`).
-/

namespace Federation

/-! ### Reading what was signed -/

namespace Verifier

variable {v : Verifier} {entity : EntityId} {raw : String} {claims : Json} {statement : Statement}
  {failure : Failure}

lemma readConfiguration_of_verified (peeked : v.peek raw = .ok claims)
    (read : Statement.ofClaims claims = .ok statement)
    (names : statement.issuer = entity ∧ statement.subject = entity)
    (verified : v.verify raw statement.keys = .ok claims) :
    v.readConfiguration entity raw = .ok statement := by
  simp [readConfiguration, readIssued, peeked, read, verified, checkNames, names.1, names.2, bind,
    Except.bind, pure, Except.pure]

lemma readConfiguration_of_refused (peeked : v.peek raw = .ok claims)
    (read : Statement.ofClaims claims = .ok statement)
    (refused : v.verify raw statement.keys = .error failure) :
    v.readConfiguration entity raw = .error failure := by
  simp [readConfiguration, readIssued, peeked, read, refused, bind, Except.bind]

end Verifier

lemma Resolver.fetchConfiguration_of_fetched {σ : Type} {r : Resolver σ} {entity : EntityId}
    {raw : String} {known : Knowledge σ}
    (fetched : (r.fetcher entity entity known.source).1 = .ok raw) :
    (r.fetchConfiguration entity known).1 = r.verifier.readConfiguration entity raw := by
  rw [fetchConfiguration, Query.bind_apply]
  have answered : (r.fetch entity entity known).1 = .ok raw :=
    congrArg (Except.mapError Failure.fetch) fetched
  rw [answered]
  rfl

namespace Statement

/-- Nothing of a statement is lost when it is written: its identifiers denote themselves, and its claims
are read back from their text. -/
structure Survives (statement : Statement) : Prop where
  stable : ∀ id ∈ statement.identifiers, id.Stable
  readBack : Jws.readClaims (Jws.part statement.toClaims) = .ok statement.toClaims

variable {claims : Members Json} {statement : Statement} {key : SigningKey} {published : Key}

/-- Claims without floats survive, if the reader of the registered claims gets past them. -/
lemma survives_of_isSimple (stable : ∀ id ∈ statement.identifiers, id.Stable)
    (simple : statement.toClaims.isSimple = true)
    (readable : (statement.toClaims.document?.any fun document =>
      decide (document.depth ≤ Json.maxDepth) && Jws.admitsClaims document) = true) :
    statement.Survives :=
  ⟨stable, Jws.readClaims_part simple readable⟩

/-- A signed configuration is read by its own keys if the first one of the identifier verifies it. -/
lemma Survives.readConfiguration (survives : statement.Survives)
    (wellFormed : (Json.object claims).WellFormed) (read : ofMembers claims = .ok statement)
    (selfIssued : statement.isSelfIssued = true) (found : statement.keys.find? key.id = some published) :
    (published.Verifies key (Jws.message statement.toClaims key) →
      Verifier.ed25519.readConfiguration statement.subject (Jws.signed statement.toClaims key).joined =
        .ok statement.refilled) ∧
    (¬published.Verifies key (Jws.message statement.toClaims key) →
      Verifier.ed25519.readConfiguration statement.subject (Jws.signed statement.toClaims key).joined =
        .error Jws.unverified) := by
  have again : ofClaims statement.toClaims = .ok statement.refilled :=
    ofMembers_of_decoded ((decoded_of_ofMembers read).decoded_refilled wellFormed survives.stable)
  have names : statement.refilled.issuer = statement.subject ∧
      statement.refilled.subject = statement.subject :=
    ⟨beq_iff_eq.mp selfIssued, rfl⟩
  have peeked : Verifier.ed25519.peek (Jws.signed statement.toClaims key).joined =
      .ok statement.toClaims := by
    show (Jws.read _ >>= Jws.unverifiedClaims) = _
    rw [Jws.read_joined_signed]
    exact survives.readBack
  have verdict : Verifier.ed25519.verify (Jws.signed statement.toClaims key).joined
      statement.refilled.keys = (Jws.signed statement.toClaims key).verify statement.keys := by
    show (Jws.read _ >>= fun jws => jws.verify _) = _
    rw [Jws.read_joined_signed]
    rfl
  obtain ⟨accepted, refused⟩ := Jws.verify_signed statement.toClaims found
  refine ⟨fun verifies => ?_, fun fails => ?_⟩
  · exact Verifier.readConfiguration_of_verified peeked again names
      (verdict.trans ((accepted verifies).trans survives.readBack))
  · exact Verifier.readConfiguration_of_refused peeked again (verdict.trans (refused fails))

end Statement

namespace StatementStore

variable {store changed : StatementStore} {issuer subject : EntityId} {raw : String}

/-- What has been saved is fetched. -/
lemma fetch_of_saveFor (saved : store.saveFor issuer subject raw = .ok changed)
    (stable : issuer.Stable ∧ subject.Stable) :
    (fetch issuer subject changed).1 = .ok (Text.trim raw) := by
  obtain ⟨rfl, -⟩ := saveFor_eq_ok saved
  have loaded : load? ⟨store.location, store.entries.insert (StatementFile.name issuer subject)
      (.file (fileFor (issuer, subject) (Text.trim raw)).text)⟩ issuer subject =
        .ok (some (Text.trim raw)) :=
    load?_of_entry (issuer, subject) (Members.get?_insert_self _ _ _) stable
  rw [fetch, loaded]

/-- Saving a statement takes no folder away. -/
lemma covers_of_saveFor (saved : store.saveFor issuer subject raw = .ok changed) :
    Folder.Covers changed.entries store.entries := by
  obtain ⟨rfl, notFolder⟩ := saveFor_eq_ok saved
  exact Folder.covers_insert fun listed found => absurd found (notFolder listed)

end StatementStore

/-! ### The command -/

namespace Command

open Work

variable {i : Invocation} {s : Surroundings} {keyPath claimsPath : String} {desk : Desk}

/-- Times are set in well-formed claims. -/
lemma wellFormed_withTimes {members : Members Json} {now : Int}
    (wellFormed : (Json.object members).WellFormed) :
    (Json.object (withTimes members now)).WellFormed := by
  have dated : ∀ {members : Members Json}, (Json.object members).WellFormed → ∀ name time,
      (Json.object (if members.has name then members
        else members.insert name (.int time))).WellFormed := by
    intro members wellFormed name time
    split
    · exact wellFormed
    · exact wellFormed.insert name trivial
  exact dated (dated wellFormed "iat" _) "exp" _

/-- What a command that signs claims finds. -/
structure Issues (s : Surroundings) (keyPath claimsPath : String) (desk : Desk) (key : SigningKey)
    (members : Members Json) (statement : Statement) : Prop where
  /-- The key is read from its file. -/
  keyRead : readKey keyPath desk = (.ok key, desk)
  /-- The claims are read from theirs. -/
  claimsRead : readObject claimsPath desk = (.ok members, desk)
  /-- The statement is the one that the claims make. -/
  made : Statement.ofMembers (withTimes members s.now) = .ok statement
  complete : statement.checkRequired = .ok ()
  /-- A configuration publishes a key of the identifier. -/
  published : statement.isSelfIssued = true → (statement.keys.find? key.id).isSome = true

/-- What is left to do with the text of a signed statement. -/
def deliver (i : Invocation) (s : Surroundings) (key : SigningKey) (statement : Statement)
    (raw : String) : Bool → Work Unit
  | true => say raw
  | false => do
    let store ← openStore i s
    let changed ← orFail (store.saveFor statement.issuer statement.subject raw)
      "failed to store statement"
    closeStore changed
    say "Signed statement"
    say s!"  Issuer:  {statement.issuer}"
    say s!"  Subject: {statement.subject}"
    say s!"  Expires: {Calendar.readableText statement.expiresAt}"
    if i.verbose then
      say s!"  Key ID:  {key.id}"
      say s!"  Store:   {store.location}"

/-- What a command that signs claims and stores the statement finds and does. -/
structure Signs (i : Invocation) (s : Surroundings) (keyPath claimsPath : String) (desk : Desk)
    (key : SigningKey) (statement : Statement) (store : StatementStore) : Prop where
  /-- The key is read from its file. -/
  keyRead : readKey keyPath desk = (.ok key, desk)
  /-- The statement is the one that the claims in the other file make. -/
  claimsRead : ∃ members, readObject claimsPath desk = (.ok members, desk) ∧
    Statement.ofMembers (withTimes members s.now) = .ok statement
  complete : statement.checkRequired = .ok ()
  /-- A configuration publishes a key of the identifier. -/
  published : statement.isSelfIssued = true → (statement.keys.find? key.id).isSome = true
  /-- The signed claims are saved in the store that is opened. -/
  saved : ∃ before mid, openStore i s desk = (.ok before, mid) ∧
    before.saveFor statement.issuer statement.subject (Jws.signed statement.toClaims key).joined =
      .ok store

variable {key : SigningKey} {statement : Statement} {store : StatementStore}

/-- What is said about a signed statement. -/
lemma prints_report (done issuer subject expires id location : String) (verbose : Bool) :
    Prints (do
      say done
      say issuer
      say subject
      say expires
      if verbose then
        say id
        say location) := by
  refine (Prints.say _).bind ((Prints.say _).bind ((Prints.say _).bind ((Prints.say _).bind ?_)))
  cases verbose with
  | true => exact (Prints.say _).bind (Prints.say _)
  | false => exact Prints.pure

variable {noStore : Bool} {members : Members Json}

/-- **A command that succeeds has found a statement to sign**, whatever it does with it. -/
theorem issues_of_sign (h : (sign i s keyPath claimsPath noStore desk).1 = .ok ()) :
    ∃ key members statement, Issues s keyPath claimsPath desk key members statement := by
  obtain ⟨after, whole⟩ : ∃ after, sign i s keyPath claimsPath noStore desk = (.ok (), after) :=
    ⟨_, Prod.ext h rfl⟩
  rw [sign] at whole
  obtain ⟨key, mid, keyRead, whole⟩ := ExceptT.bind_eq_ok_iff.mp whole
  cases (Reads.readKey keyPath).of_eq keyRead
  obtain ⟨members, mid, claimsRead, whole⟩ := ExceptT.bind_eq_ok_iff.mp whole
  cases (Reads.readObject claimsPath).of_eq claimsRead
  obtain ⟨statement, mid, step, whole⟩ := ExceptT.bind_eq_ok_iff.mp whole
  obtain ⟨made, rfl⟩ := orFail_eq_ok_iff.mp step
  obtain ⟨_, mid, step, whole⟩ := ExceptT.bind_eq_ok_iff.mp whole
  obtain ⟨complete, rfl⟩ := orFail_eq_ok_iff.mp step
  refine ⟨key, members, statement, keyRead, claimsRead, made, complete, fun selfIssued => ?_⟩
  split at whole
  · obtain ⟨_, _, failed, _⟩ := ExceptT.bind_eq_ok_iff.mp whole
    cases failed
  · rename_i named
    rw [selfIssued, Bool.true_and, Bool.not_eq_true, Option.isNone_eq_false_iff] at named
    exact named

/-- A statement that has been found is signed and delivered. -/
lemma Issues.sign_eq (issues : Issues s keyPath claimsPath desk key members statement) :
    sign i s keyPath claimsPath noStore desk =
      deliver i s key statement (Jws.signed statement.toClaims key).joined noStore desk := by
  have named : (statement.isSelfIssued && (statement.keys.find? key.id).isNone) = false := by
    cases selfIssued : statement.isSelfIssued with
    | false => rfl
    | true => simpa using issues.published selfIssued
  obtain ⟨raw, signed⟩ : ∃ raw, Jws.sign statement.toClaims key = .ok raw := ⟨_, rfl⟩
  rw [sign, bind_of_eq issues.keyRead, bind_of_eq issues.claimsRead,
    bind_of_eq (orFail_eq_ok_iff.mpr ⟨issues.made, rfl⟩),
    bind_of_eq (orFail_eq_ok_iff.mpr ⟨issues.complete, rfl⟩)]
  dsimp only
  rw [named, if_neg Bool.false_ne_true, bind_of_eq (orFail_eq_ok_iff.mpr ⟨signed, rfl⟩),
    ← (Jws.joined_of_sign signed).1]
  cases noStore with
  | true => rfl
  | false => rfl

/-- A command that succeeds has signed and stored a statement. -/
lemma signs_of_sign (h : (sign i s keyPath claimsPath false desk).1 = .ok ()) :
    ∃ key statement store, Signs i s keyPath claimsPath desk key statement store := by
  obtain ⟨key, members, statement, issues⟩ := issues_of_sign h
  obtain ⟨after, whole⟩ : ∃ after, sign i s keyPath claimsPath false desk = (.ok (), after) :=
    ⟨_, Prod.ext h rfl⟩
  rw [issues.sign_eq, deliver] at whole
  obtain ⟨before, mid, opened, whole⟩ := ExceptT.bind_eq_ok_iff.mp whole
  obtain ⟨store, _, step, -⟩ := ExceptT.bind_eq_ok_iff.mp whole
  obtain ⟨saved, rfl⟩ := orFail_eq_ok_iff.mp step
  exact ⟨key, statement, store, issues.keyRead, ⟨members, issues.claimsRead, issues.made⟩,
    issues.complete, issues.published, before, _, opened, saved⟩

namespace Signs

/-- What a command finds is all it needs to succeed, and it leaves the files as it has written the store
back. -/
lemma sign_eq (signs : Signs i s keyPath claimsPath desk key statement store) :
    ∃ before mid, openStore i s desk = (.ok before, mid) ∧
      before.saveFor statement.issuer statement.subject (Jws.signed statement.toClaims key).joined =
        .ok store ∧
      (sign i s keyPath claimsPath false desk).1 = .ok () ∧
      (sign i s keyPath claimsPath false desk).2.files = (closeStore store mid).2.files := by
  obtain ⟨members, claimsRead, made⟩ := signs.claimsRead
  obtain ⟨before, mid, opened, saved⟩ := signs.saved
  have issues : Issues s keyPath claimsPath desk key members statement :=
    ⟨signs.keyRead, claimsRead, made, signs.complete, signs.published⟩
  have closed : closeStore store mid = (.ok (), (closeStore store mid).2) := rfl
  refine ⟨before, mid, opened, saved, ?_⟩
  rw [issues.sign_eq, deliver, bind_of_eq opened, bind_of_eq (orFail_eq_ok_iff.mpr ⟨saved, rfl⟩),
    bind_of_eq closed]
  exact prints_report _ _ _ _ _ _ _ _

lemma sign_eq_ok (signs : Signs i s keyPath claimsPath desk key statement store) :
    (sign i s keyPath claimsPath false desk).1 = .ok () := by
  obtain ⟨_, _, _, _, done, _⟩ := signs.sign_eq
  exact done

/-- The store that a command leaves behind is the one that is opened next. -/
lemma opens (signs : Signs i s keyPath claimsPath desk key statement store) {desk' : Desk}
    (files : desk'.files = (sign i s keyPath claimsPath false desk).2.files) :
    openStore i s desk' = (.ok store, desk') := by
  obtain ⟨before, mid, opened, saved, _, left⟩ := signs.sign_eq
  refine openStore_of_closeStore opened ?_ (StatementStore.covers_of_saveFor saved) (files.trans left)
  rw [(StatementStore.saveFor_eq_ok saved).1]

/-- What is fetched from the store that a command has left is decided by the first published key of the
identifier. -/
lemma verdict (signs : Signs i s keyPath claimsPath desk key statement store)
    (selfIssued : statement.isSelfIssued = true) (survives : statement.Survives) {published : Key}
    (found : statement.keys.find? key.id = some published) {known : Knowledge StatementStore}
    (source : known.source = store) :
    (published.Verifies key (Jws.message statement.toClaims key) →
      (Resolver.fetchConfiguration ⟨StatementStore.fetch, Verifier.ed25519⟩ statement.subject known).1 =
        .ok statement.refilled) ∧
    (¬published.Verifies key (Jws.message statement.toClaims key) →
      (Resolver.fetchConfiguration ⟨StatementStore.fetch, Verifier.ed25519⟩ statement.subject known).1 =
        .error Jws.unverified) := by
  obtain ⟨members, claimsRead, made⟩ := signs.claimsRead
  obtain ⟨before, _, _, saved⟩ := signs.saved
  have issuer : statement.issuer = statement.subject := beq_iff_eq.mp selfIssued
  have stable : statement.subject.Stable := survives.stable _ (by simp [Statement.identifiers])
  have fetched : (StatementStore.fetch statement.subject statement.subject known.source).1 =
      .ok (Jws.signed statement.toClaims key).joined := by
    rw [issuer] at saved
    rw [source, StatementStore.fetch_of_saveFor saved ⟨stable, stable⟩, Jws.trim_joined_signed]
  rw [Resolver.fetchConfiguration_of_fetched
    (r := ⟨StatementStore.fetch, Verifier.ed25519⟩) fetched]
  exact survives.readConfiguration (wellFormed_withTimes (wellFormed_of_readObject claimsRead)) made
    selfIssued found

end Signs

/-- **A signed configuration is accepted if the key that is published under the signer's identifier
verifies it**, and refused if the first such key does not.  Whenever signing succeeds, the key of the
statement is the one in the key file and the claims are those in the claims file, the store can be opened
again, and the configuration in it is read as it was signed, or refused for its signature.  It is read if
the published key holds the public half of the signing key and may be used for signatures, and Ed25519
verifies what it signs. -/
theorem configuration_of_sign (h : (sign i s keyPath claimsPath false desk).1 = .ok ()) :
    ∃ key statement store,
      readKey keyPath desk = (.ok key, desk) ∧
      (∃ members, readObject claimsPath desk = (.ok members, desk) ∧
        Statement.ofMembers (withTimes members s.now) = .ok statement) ∧
      (∀ desk', desk'.files = (sign i s keyPath claimsPath false desk).2.files →
        openStore i s desk' = (.ok store, desk')) ∧
      (statement.isSelfIssued = true → statement.Survives →
        ∃ published, statement.keys.find? key.id = some published ∧
          ∀ known : Knowledge StatementStore, known.source = store →
            let message := Jws.message statement.toClaims key
            let answer := (Resolver.fetchConfiguration ⟨StatementStore.fetch, Verifier.ed25519⟩
              statement.subject known).1
            (published.Verifies key message → answer = .ok statement.refilled) ∧
            (¬published.Verifies key message → answer = .error Jws.unverified) ∧
            (published.isEd25519 = true → published.x = key.publicKey.x →
              Ed25519.verify key.publicBytes message (Ed25519.sign key.seed message) = true →
              answer = .ok statement.refilled)) := by
  obtain ⟨key, statement, store, signs⟩ := signs_of_sign h
  refine ⟨key, statement, store, signs.keyRead, signs.claimsRead, fun _ => signs.opens,
    fun selfIssued survives => ?_⟩
  obtain ⟨published, found⟩ := Option.isSome_iff_exists.mp (signs.published selfIssued)
  refine ⟨published, found, fun known source => ?_⟩
  obtain ⟨accepted, refused⟩ := signs.verdict selfIssued survives found source
  exact ⟨accepted, refused, fun usable own verified =>
    accepted (Key.verifies_of_own usable own verified)⟩

/-! ### A party and its keys -/

/-- The key of a party. -/
def partyKey : SigningKey := ⟨List.replicate 32 0⟩

/-- The identifier of the key of a party. -/
def partyId : String := "9ZP03Nu8GrXPAUkbKNxHOKBzxPX83SShgFkRNK-f2lw"

/-- The public half of the key of a party. -/
def ownMaterial : String := "O2onvM62pC1io6jQKm8Nc2UyFXcd4kOmOsBIoYtZ2ik"

/-- The public half of another key. -/
def otherMaterial : String := "zswVB9wd3XKVlRwpCIjwla25BE0bc9aW5t8GXWg71Pw"

/-- The claims of a party that publishes some material under the identifier of its key. -/
def partyClaims (material : String) : Members Json :=
  [("iss", .string "https://party"), ("sub", .string "https://party"), ("iat", .int 0),
    ("exp", .int 100),
    ("jwks", .object [("keys", .array [.object [("kty", .string "OKP"), ("crv", .string "Ed25519"),
      ("x", .string material), ("kid", .string partyId)]])]),
    ("metadata", .object [("openid_relying_party", .object [])])]

/-- The material as the party publishes it. -/
def partyPublished (material : String) : Key :=
  ⟨"OKP", some "Ed25519", some material, some partyId, none, none, []⟩

/-- The configuration of the party. -/
def partyStatement (material : String) : Statement where
  issuer := ⟨"https://party"⟩
  subject := ⟨"https://party"⟩
  issuedAt := 0
  expiresAt := 100
  keys := ⟨[partyPublished material]⟩
  audience := none
  metadata := [("openid_relying_party", [])]
  metadataPolicy := none
  constraints := none
  authorityHints := none
  critical := []
  policyCritical := []
  others := []

/-- The key of the party and claims in files. -/
def claimsDesk (claims : Members Json) : Desk where
  files :=
    [("party.key", .file partyKey.text), ("party.json", .file (Json.object claims).compact)]
  output := ""

/-- The key and the claims of the party in files. -/
def partyDesk (material : String) : Desk where
  files :=
    [("party.key", .file partyKey.text),
      ("party.json", .file (Json.object (partyClaims material)).compact)]
  output := ""

/-- Signs the claims of the party into a store of its own. -/
def partyInvocation : Invocation := ⟨some "store", false, .sign "party.key" "party.json" false⟩

/-- The surroundings at time 50. -/
def partySurroundings : Surroundings := ⟨[], 50, []⟩

lemma id_partyKey : partyKey.id = partyId := by
  decide +kernel

lemma read_party : EntityId.read "https://party" = .ok ⟨"https://party"⟩ := by
  rw [← Except.toOption_eq_some_iff]
  decide +kernel

lemma toClaims_partyStatement (material : String) :
    (partyStatement material).toClaims = .object (partyClaims material) := rfl

lemma ofMembers_partyClaims (material : String) :
    Statement.ofMembers (withTimes (partyClaims material) partySurroundings.now) =
      .ok (partyStatement material) := by
  have dated : withTimes (partyClaims material) partySurroundings.now = partyClaims material := rfl
  have issuer : Statement.readId (partyClaims material) "iss" = .ok ⟨"https://party"⟩ := read_party
  have subject : Statement.readId (partyClaims material) "sub" = .ok ⟨"https://party"⟩ := read_party
  rw [dated, Statement.ofMembers, issuer, subject]
  rfl

lemma survives_partyStatement (material : String) : (partyStatement material).Survives := by
  refine Statement.survives_of_isSimple (fun id mem => ?_) rfl rfl
  have only : (partyStatement material).identifiers = [⟨"https://party"⟩, ⟨"https://party"⟩] := rfl
  rw [only] at mem
  simp only [List.mem_cons, List.not_mem_nil, or_false, or_self] at mem
  exact mem ▸ read_party

lemma textAt?_claimsDesk (claims : Members Json) :
    (claimsDesk claims).files.textAt? "party.key" = some partyKey.text ∧
      (claimsDesk claims).files.textAt? "party.json" = some (Json.object claims).compact := by
  constructor
  · rw [Folder.textAt?_of_name _ (by decide) (by decide) (by decide) (by decide +kernel)]
    rfl
  · rw [Folder.textAt?_of_name _ (by decide) (by decide) (by decide) (by decide +kernel)]
    rfl

/-- The store of the party is made where nothing was. -/
lemma openStore_partyDesk (material : String) :
    ∃ mid, openStore partyInvocation partySurroundings (partyDesk material) =
      (.ok ⟨"store", []⟩, mid) := by
  have slash : "/" = String.singleton '/' := rfl
  have path : storePath "store" = "store/statements" := by decide +kernel
  have start : Path.start "store/statements" = [] := by decide +kernel
  have cut : "store/statements".toList.splitOn '/' = ["store".toList, "statements".toList] := rfl
  have steps : Path.steps "store/statements" = ["store", "statements"] := by
    rw [Path.steps, slash, Text.splitOn_singleton, cut]
    rfl
  refine ⟨⟨(partyDesk material).files.insert "store" (.folder [("statements", .folder [])]), ""⟩,
    openStore_eq_ok_iff.mpr ⟨rfl, ?_, ?_, rfl⟩⟩
  · rw [path, Folder.make, if_neg (by decide +kernel), start, steps]
    rfl
  · rw [path, Path.names, start, steps]
    rfl

/-- Whatever material is published, the party is free to sign. -/
lemma signs_party (material : String) : ∃ store,
    Signs partyInvocation partySurroundings "party.key" "party.json" (partyDesk material) partyKey
      (partyStatement material) store := by
  obtain ⟨keyText, claimsText⟩ := textAt?_claimsDesk (partyClaims material)
  obtain ⟨mid, opened⟩ := openStore_partyDesk material
  have parsed : Json.parse? (Json.object (partyClaims material)).compact =
      some (.object (partyClaims material)) :=
    Json.parse?_compact rfl rfl
  refine ⟨⟨"store", Members.insert []
      (StatementFile.name ⟨"https://party"⟩ ⟨"https://party"⟩)
      (.file (StatementStore.fileFor (⟨"https://party"⟩, ⟨"https://party"⟩)
        (Text.trim (Jws.signed (partyStatement material).toClaims partyKey).joined)).text)⟩, ?_⟩
  exact
    { keyRead := readKey_of_text rfl keyText
      claimsRead := ⟨partyClaims material, readObject_of_text parsed claimsText,
        ofMembers_partyClaims material⟩
      complete := rfl
      published := fun _ => by rw [id_partyKey]; rfl
      saved := ⟨_, mid, opened, rfl⟩ }

/-- The key that the party publishes is found under its identifier. -/
lemma find?_partyStatement (material : String) :
    (partyStatement material).keys.find? partyKey.id = some (partyPublished material) := by
  rw [id_partyKey]
  rfl

/-- What the party signs. -/
def partyMessage (material : String) : List UInt8 :=
  Jws.message (partyStatement material).toClaims partyKey

lemma verified_ownMaterial :
    Base64Url.encode partyKey.publicBytes = ownMaterial ∧
      Ed25519.verify partyKey.publicBytes (partyMessage ownMaterial)
        (Ed25519.sign partyKey.seed (partyMessage ownMaterial)) = true := by
  rw [partyMessage, Jws.message_eq, id_partyKey]
  simp only [toClaims_partyStatement, partyClaims, Json.compact, Json.compactMembers,
    Json.compactItems, Jws.headerOf, Text.bytes_append]
  decide +kernel

/-- A configuration that publishes its own key is accepted. -/
theorem configuration_of_sign_ownMaterial :
    (sign partyInvocation partySurroundings "party.key" "party.json" false (partyDesk ownMaterial)).1 =
        .ok () ∧
      (partyStatement ownMaterial).isSelfIssued = true ∧ (partyStatement ownMaterial).Survives ∧
      ∃ store,
        (∀ desk', desk'.files = (sign partyInvocation partySurroundings "party.key" "party.json" false
            (partyDesk ownMaterial)).2.files →
          openStore partyInvocation partySurroundings desk' = (.ok store, desk')) ∧
        ∀ known : Knowledge StatementStore, known.source = store →
          (Resolver.fetchConfiguration ⟨StatementStore.fetch, Verifier.ed25519⟩
            (partyStatement ownMaterial).subject known).1 =
              .ok (partyStatement ownMaterial).refilled := by
  obtain ⟨_, signs⟩ := signs_party ownMaterial
  obtain ⟨members', claimsRead', made'⟩ := signs.claimsRead
  obtain ⟨key, statement, store, keyRead, ⟨members, claimsRead, made⟩, opened, decided⟩ :=
    configuration_of_sign signs.sign_eq_ok
  cases signs.keyRead.symm.trans keyRead
  cases claimsRead'.symm.trans claimsRead
  cases made'.symm.trans made
  have survives := survives_partyStatement ownMaterial
  obtain ⟨published, found, decided⟩ := decided rfl survives
  cases (find?_partyStatement ownMaterial).symm.trans found
  obtain ⟨own, verified⟩ := verified_ownMaterial
  refine ⟨signs.sign_eq_ok, rfl, survives, store, opened, fun known source => ?_⟩
  obtain ⟨_, _, accepted⟩ := decided known source
  exact accepted rfl (congrArg some own.symm) verified

lemma verified_otherMaterial :
    Ed25519.verify partyKey.publicBytes (partyMessage otherMaterial)
        (Ed25519.sign partyKey.seed (partyMessage otherMaterial)) = true ∧
      ¬(partyPublished otherMaterial).Verifies partyKey (partyMessage otherMaterial) := by
  rw [partyMessage, Jws.message_eq, id_partyKey]
  simp only [toClaims_partyStatement, partyClaims, Json.compact, Json.compactMembers,
    Json.compactItems, Jws.headerOf, Text.bytes_append]
  decide +kernel

/-- **A configuration is stored that is not accepted.**  It publishes other material under the
identifier of the signing key.  The signature is genuine and nothing is lost on the way, but what is
published does not verify it. -/
theorem misnamed_refused :
    (sign partyInvocation partySurroundings "party.key" "party.json" false
        (partyDesk otherMaterial)).1 = .ok () ∧
      (partyStatement otherMaterial).isSelfIssued = true ∧ (partyStatement otherMaterial).Survives ∧
      Ed25519.verify partyKey.publicBytes (partyMessage otherMaterial)
        (Ed25519.sign partyKey.seed (partyMessage otherMaterial)) = true ∧
      ∃ store,
        Signs partyInvocation partySurroundings "party.key" "party.json" (partyDesk otherMaterial)
          partyKey (partyStatement otherMaterial) store ∧
        (∀ desk', desk'.files = (sign partyInvocation partySurroundings "party.key" "party.json" false
            (partyDesk otherMaterial)).2.files →
          openStore partyInvocation partySurroundings desk' = (.ok store, desk')) ∧
        ∀ known : Knowledge StatementStore, known.source = store →
          (Resolver.fetchConfiguration ⟨StatementStore.fetch, Verifier.ed25519⟩
            (partyStatement otherMaterial).subject known).1 = .error Jws.unverified := by
  obtain ⟨store, signs⟩ := signs_party otherMaterial
  obtain ⟨genuine, refused⟩ := verified_otherMaterial
  have survives := survives_partyStatement otherMaterial
  refine ⟨signs.sign_eq_ok, rfl, survives, genuine, store, signs, fun _ => signs.opens,
    fun known source => ?_⟩
  exact (signs.verdict rfl survives (find?_partyStatement otherMaterial) source).2 refused

end Command

end Federation
