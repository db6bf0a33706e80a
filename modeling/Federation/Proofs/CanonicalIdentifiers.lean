import Federation.Proofs.Address.Rereading
import Federation.Proofs.Address.Slashes
import Federation.Proofs.Drafts
import Federation.Proofs.Storage.StatementStore
import Federation.Proofs.Text

/-!
# Identifiers are in normal form

The text of an identifier is the text of an address without its final slashes.  Read again it is the same
identifier, wherever it has been written to in between.

**Texts.**  `EntityId.ofText_text` asks for one thing only: that the address is read again from the text it
is written as (`Address.Rereads`).  That the text holds nothing it could be refused for, and that without its
slashes it denotes the address still, are theorems about the reader (`Address.IsRead.graphic_text`,
`Address.ofText_withoutFinalSlashes`).  `EntityId.addressRereads_iff` says for which identifiers that is so,
`EntityId.normal_of_isPlain` that it is so away from files and encoded labels.

**Statements.**  `Statement.KeepsIds` is about one claim after the other, of any statement.  The statements
that are decoded or finished (`Statement.Stated`) can be decoded as a whole from what is written for them.

**Files.**  `StatementStore.KeepsIds` is about the file that is written for a pair.

`EntityId.kept_of_denoted` puts this together.
-/

namespace Federation

/-! ### Texts -/

namespace EntityId

variable {text : String} {id : EntityId} {a : Address}

/-- What an identifier has been read from. -/
lemma ofText_eq_ok_iff : ofText text = .ok id ↔
    (∀ c ∈ (Text.trim text).toList, Text.isBlank c = false ∧ Text.isControl c = false) ∧
      ∃ a, Address.ofText (Text.trim text) = .ok (some a) ∧ a.suffix = "" ∧
        ⟨withoutFinalSlashes a.text⟩ = id := by
  have visible : ((Text.trim text).toList.any fun c => Text.isBlank c || Text.isControl c) = true ↔
      ¬∀ c ∈ (Text.trim text).toList, Text.isBlank c = false ∧ Text.isControl c = false := by
    rw [← Bool.not_eq_false, List.any_eq_false]
    simp
  unfold ofText
  dsimp only
  split
  · rename_i refused
    exact iff_of_false nofun fun h => visible.mp refused h.1
  · rename_i accepted
    rw [visible, not_not] at accepted
    rw [and_iff_right accepted]
    cases Address.ofText (Text.trim text) with
    | error why => simp
    | ok read =>
        cases read with
        | none => simp
        | some a =>
            simp only [Except.ok.injEq, Option.some.injEq, exists_eq_left', String.isEmpty_iff]
            split
            · rename_i plain
              simp [plain]
            · rename_i suffix
              simp [suffix]

/-- Nothing that cannot be seen is left in an identifier. -/
lemma graphic_of_ofText (h : ofText text = .ok id) : Graphic id.text.toList := by
  obtain ⟨-, a, read, -, rfl⟩ := ofText_eq_ok_iff.mp h
  rw [toList_withoutFinalSlashes]
  exact (Address.isRead_of_ofText read).graphic_text.sublist (List.rdropWhile_prefix _ _).sublist

lemma getLast?_of_ofText (h : ofText text = .ok id) : id.text.toList.getLast? ≠ some '/' := by
  obtain ⟨-, a, -, -, rfl⟩ := ofText_eq_ok_iff.mp h
  rw [toList_withoutFinalSlashes]
  intro last
  obtain ⟨front, same⟩ := List.getLast?_eq_some_iff.mp last
  have fixed := List.rdropWhile_idempotent (· == '/') a.text.toList
  rw [same, List.rdropWhile_concat_pos _ _ _ rfl] at fixed
  have length := congrArg List.length fixed
  have within := (List.rdropWhile_prefix (· == '/') front).length_le
  simp at length
  omega

/-- The address in a text, if there is one, is the one its own text is read as. -/
def AddressRereads (text : String) : Prop :=
  ∀ a, Address.ofText (Text.trim text) = .ok (some a) → a.Rereads

instance (text : String) : Decidable (AddressRereads text) :=
  decidable_of_iff
    (((Address.ofText (Text.trim text)).toOption.all fun read => read.all fun a => decide a.Rereads) = true)
    (by
      rw [AddressRereads]
      cases Address.ofText (Text.trim text) with
      | error why => simp [Except.toOption]
      | ok read =>
          cases read with
          | none => simp [Except.toOption]
          | some a => simp [Except.toOption])

/-- Which addresses that is the case for. -/
lemma addressRereads_iff (h : ofText text = .ok id) : AddressRereads text ↔
    ∀ a, Address.ofText (Text.trim text) = .ok (some a) →
      a.host.IsSettled (Address.Family.of a.scheme) ∧
        (a.scheme = "file" → Address.readPath .file a.path.toList = (a.path, true)) := by
  obtain ⟨-, a, read, plain, -⟩ := ofText_eq_ok_iff.mp h
  refine forall_congr' fun b => imp_congr_right fun again => ?_
  obtain rfl : a = b := Option.some.inj (Except.ok.inj (read.symm.trans again))
  exact (Address.isRead_of_ofText read).rereads_iff plain

/-- **An identifier is the one its own text denotes**, if its address is the one its own text is read
as. -/
theorem ofText_text (h : ofText text = .ok id) (rereads : AddressRereads text) :
    ofText id.text = .ok id := by
  have graphic := graphic_of_ofText h
  obtain ⟨-, a, read, plain, rfl⟩ := ofText_eq_ok_iff.mp h
  have trimmed : Text.trim (withoutFinalSlashes a.text) = withoutFinalSlashes a.text :=
    Text.trim_eq_self fun c mem => (graphic c mem).isBlank_eq_false
  obtain ⟨b, again, same⟩ := Address.ofText_withoutFinalSlashes a.text a (rereads a read) plain
  rw [ofText_eq_ok_iff, trimmed]
  refine ⟨fun c mem => ⟨(graphic c mem).isBlank_eq_false, (graphic c mem).isControl_eq_false⟩,
    b, again, ?_, ?_⟩
  · rw [← same.suffix_eq, plain]
  · rw [← same.text_eq]

/-- The identifier was read from a text, and the address in it is the one its own text is read as. -/
def Denoted (id : EntityId) : Prop :=
  ∃ text, ofText text = .ok id ∧ AddressRereads text

/-- An identifier in normal form. -/
structure Normal (id : EntityId) : Prop where
  noFinalSlash : id.text.toList.getLast? ≠ some '/'
  graphic : Graphic id.text.toList
  /-- Its text denotes it. -/
  ofText_text : ofText id.text = .ok id
  /-- So does its text in quotes, compact or indented. -/
  ofJson : ∀ quoted ∈ [(Json.string id.text).compact, (Json.string id.text).pretty],
    (Json.Document.parse? quoted).bind StatementFile.id? = some id

namespace Denoted

lemma ofText_text (denoted : id.Denoted) : ofText id.text = .ok id := by
  obtain ⟨text, h, rereads⟩ := denoted
  exact EntityId.ofText_text h rereads

lemma stable (denoted : id.Denoted) : id.Stable :=
  Except.mapError_eq_ok_iff.mpr denoted.ofText_text

lemma normal (denoted : id.Denoted) : id.Normal where
  noFinalSlash := getLast?_of_ofText denoted.ofText_text
  graphic := graphic_of_ofText denoted.ofText_text
  ofText_text := denoted.ofText_text
  ofJson := by
    have read : StatementFile.id? (.string (.ofText id.text)) = some id :=
      StatementFile.id?_literal denoted.stable
    have compact : Json.Document.parse? (Json.string id.text).compact =
        some (.string (.ofText id.text)) :=
      Json.Document.parse?_compact rfl
    have pretty : Json.Document.parse? (Json.string id.text).pretty =
        some (.string (.ofText id.text)) :=
      Json.Document.parse?_pretty rfl
    intro quoted mem
    rcases List.mem_pair.mp mem with rfl | rfl
    · rw [compact]
      exact read
    · rw [pretty]
      exact read

end Denoted

/-- **Away from files and encoded labels nothing is left to ask for.**  A host that is a name of the web must
be in lower case, and none of its labels may be an encoded one. -/
theorem normal_of_isPlain (h : ofText text = .ok id)
    (read : Address.ofText (Text.trim text) = .ok (some a)) (noFile : a.scheme ≠ "file")
    (plain : a.host.IsPlain) : id.Normal := by
  have rereads : AddressRereads text := by
    refine (addressRereads_iff h).mpr fun b again => ?_
    obtain rfl : a = b := Option.some.inj (Except.ok.inj (read.symm.trans again))
    exact ⟨(Address.isRead_of_ofText read).host.isSettled_of_isPlain plain, fun file => absurd file noFile⟩
  exact Denoted.normal ⟨text, h, rereads⟩

end EntityId

/-! ### Statements -/

namespace Statement

variable {s : Statement}

/-- What is written for the identifiers of a statement is read as them again, claim by claim, as long as no
other claim has the name.  Lists of names that are empty are not written. -/
structure KeepsIds (s : Statement) : Prop where
  issuer : s.others.has "iss" = false → readId s.toMembers "iss" = .ok s.issuer
  subject : s.others.has "sub" = false → readId s.toMembers "sub" = .ok s.subject
  authorityHints : s.others.has "authority_hints" = false →
    readHints (s.toMembers.get? "authority_hints") = .ok s.authorityHints
  constraints : s.others.has "constraints" = false →
    (∀ c, s.constraints = some c → c.Writable) →
      readConstraints (s.toMembers.get? "constraints") =
        .ok (s.constraints.map Constraints.refilled)

lemma keepsIds_of_stable (stable : ∀ id ∈ s.identifiers, id.Stable) : s.KeepsIds := by
  have found : ∀ {name written}, s.others.has name = false → (name, written) ∈ s.places →
      s.toMembers.get? name = written := by
    intro name written free mem
    refine get?_toMembers_of_fresh mem ?_
    rintro entry entry_mem rfl
    rw [Members.has_iff.mpr (List.mem_map_of_mem entry_mem)] at free
    cases free
  have hints : ∀ id ∈ s.authorityHints.getD [], id.Stable := fun id mem =>
    stable id (by simp [identifiers, Statement.hints, mem])
  have names : ∀ c, s.constraints = some c → ∀ id ∈ c.listed, id.Stable := fun c some id mem =>
    stable id (by simp [identifiers, some, mem])
  exact
    { issuer := fun free => readId_of_get? s.issuer (found free (by simp [places]))
        (stable _ (by simp [identifiers]))
      subject := fun free => readId_of_get? s.subject (found free (by simp [places]))
        (stable _ (by simp [identifiers]))
      authorityHints := fun free => (congrArg readHints (found free (by simp [places]))).trans
        (readHints_of_stable hints)
      constraints := fun free writable =>
        (congrArg readConstraints (found free (by simp [places]))).trans
          (readConstraints_of_stable writable names) }

/-- The ways in which a statement comes about: it is decoded from claims, or a draft is finished. -/
inductive Stated : Statement → Prop where
  | decoded {value : Json} {s : Statement} (wellFormed : value.WellFormed)
      (read : ofClaims value = .ok s) : Stated s
  | finished {d : Draft} {clock : Int} {s : Statement} (made : d.Made) (fits : Lifetime.Fits clock)
      (denoted : ∀ id ∈ (d.plain clock).identifiers, id.Denoted) (built : d.finish clock = .ok s) :
      Stated s

lemma Stated.encodable (stated : s.Stated) : s.Encodable := by
  cases stated with
  | @decoded value s wellFormed read =>
      obtain ⟨claims, rfl, decoded⟩ := decoded_of_ofClaims read
      refine decoded.encodable wellFormed.1 fun policies found => ?_
      exact readable_of_readPolicies
        (fun value given =>
          Json.allMembersWellFormed_iff.mp wellFormed.2 _ (Members.mem_of_get? given))
        (found ▸ decoded.metadataPolicy)
  | @finished d clock s made fits denoted built =>
      have sound := made.sound
      have stable : ∀ id ∈ (d.plain clock).identifiers, id.Stable := fun id mem =>
        (denoted id mem).stable
      obtain ⟨-, ⟨-, rfl⟩ | ⟨-, free, decoded⟩⟩ := Draft.built_of_finish sound.extensions.1 built
      · exact sound.encodable_plain fits
      · exact decoded.encodable (Draft.distinct_of_free sound.extensions.1 free)
          (Draft.readable_of_decoded sound fits stable decoded)

lemma identifiers_refilled (s : Statement) : s.refilled.identifiers = s.identifiers := by
  have listed : ∀ c : Constraints, c.refilled.listed = c.listed := fun c => by
    rw [Constraints.listed, Constraints.listed, Constraints.refilled, Constraints.getD_filled,
      Constraints.getD_filled]
  have constraints : (s.constraints.map Constraints.refilled).map Constraints.listed =
      s.constraints.map Constraints.listed := by
    rw [Option.map_map]
    exact congrArg (fun written => s.constraints.map written) (funext listed)
  simp only [identifiers, refilled, constraints]
  rfl

end Statement

/-! ### Files -/

/-- The file that a store has written for a pair is read with the same identifiers, by whatever store, and
its text is loaded. -/
structure StatementStore.KeepsIds (store : StatementStore) (issuer subject : EntityId) (raw : String) :
    Prop where
  load : store.load? issuer subject = .ok (some raw)
  read : ∃ node, store.entry? issuer subject = some node ∧
    ∀ (later : StatementStore) (name : String), ∃ file, later.readNode name node = .ok file ∧
      file.issuer = issuer ∧ file.subject = subject ∧ file.jws = raw

lemma StatementStore.keepsIds_of_saveFor {store changed : StatementStore} {issuer subject : EntityId}
    {raw : String} (saved : store.saveFor issuer subject raw = .ok changed)
    (stable : issuer.Stable ∧ subject.Stable) :
    changed.KeepsIds issuer subject (Text.trim raw) := by
  obtain ⟨rfl, -⟩ := saveFor_eq_ok saved
  have entry := Members.get?_insert_self store.entries (StatementFile.name issuer subject)
    (.file (fileFor (issuer, subject) (Text.trim raw)).text)
  exact
    { load := load?_of_entry (issuer, subject) entry stable
      read := ⟨_, entry, fun later name =>
        ⟨_, @readNode_fileFor (issuer, subject) stable later name _, rfl, rfl, rfl⟩⟩ }

namespace EntityId

/-- **Identifiers are in normal form, and are kept by all that writes them.**  Of the reader of addresses
one thing is assumed, about the addresses at hand: each is the one its own text is read as.

* Whatever text an identifier is read from, its own text has no slash at the end, holds neither blanks nor
  control characters and denotes the same identifier.  So does the text as a JSON value.
* What is written for a statement gives the same identifiers in every claim.  If the statement was decoded
  or finished, all of it is decoded again, with the same identifiers in their order.
* What a store writes is read with the same issuer and subject. -/
theorem kept_of_denoted :
    (∀ text id, ofText text = .ok id → AddressRereads text → id.Normal) ∧
    (∀ s : Statement, (∀ id ∈ s.identifiers, id.Denoted) → s.KeepsIds ∧
      (s.Stated →
        ∃ s', Statement.ofClaims s.toClaims = .ok s' ∧ s'.identifiers = s.identifiers)) ∧
    ∀ (store changed : StatementStore) issuer subject raw, issuer.Denoted → subject.Denoted →
      store.saveFor issuer subject raw = .ok changed →
        changed.KeepsIds issuer subject (Text.trim raw) := by
  refine ⟨fun text id h rereads => Denoted.normal ⟨text, h, rereads⟩, fun s denoted => ?_,
    fun store changed issuer subject raw issuer_denoted subject_denoted saved =>
      StatementStore.keepsIds_of_saveFor saved ⟨issuer_denoted.stable, subject_denoted.stable⟩⟩
  have stable : ∀ id ∈ s.identifiers, id.Stable := fun id mem => (denoted id mem).stable
  refine ⟨Statement.keepsIds_of_stable stable, fun stated => ⟨s.refilled, ?_, s.identifiers_refilled⟩⟩
  exact Statement.ofMembers_of_decoded (stated.encodable.decoded_refilled stable)

/-- What an authority states about a party.  The authority is spelled with capitals, a user, a hexadecimal
number for a host, a port that goes without saying, dots and slashes, the party with a zero group that may
be left out. -/
def spelledClaims : Json :=
  .object [("iss", .string " HTTPS://User@0x7F.1:443/a/../B//"), ("sub", .string "x://[0:0:0::1]:8/%7e/"),
    ("iat", .int 0), ("exp", .int 100), ("jwks", Statement.Draft.partyKeys)]

/-- The identifiers of the statement are written as their addresses are and kept by claims and files. -/
theorem kept_of_denoted_spelled :
    ∃ s store, Statement.ofClaims spelledClaims = .ok s ∧
      s.issuer = ⟨"https://User@127.0.0.1/B"⟩ ∧ s.subject = ⟨"x://[::1]:8/%7e"⟩ ∧
      s.issuer.Normal ∧ s.subject.Normal ∧ s.KeepsIds ∧
      (∃ s', Statement.ofClaims s.toClaims = .ok s' ∧ s'.identifiers = s.identifiers) ∧
      StatementStore.saveFor ⟨"store", []⟩ s.issuer s.subject "a.b.c" = .ok store ∧
      store.KeepsIds s.issuer s.subject "a.b.c" := by
  obtain ⟨ofTexts, ofStatements, ofFiles⟩ := kept_of_denoted
  have spelled : (ofText " HTTPS://User@0x7F.1:443/a/../B//").toOption =
        some ⟨"https://User@127.0.0.1/B"⟩ ∧ AddressRereads " HTTPS://User@0x7F.1:443/a/../B//" := by
    decide +kernel
  have spelled' : (ofText "x://[0:0:0::1]:8/%7e/").toOption = some ⟨"x://[::1]:8/%7e"⟩ ∧
      AddressRereads "x://[0:0:0::1]:8/%7e/" := by
    decide +kernel
  obtain ⟨denotes, rereads⟩ := spelled
  obtain ⟨denotes', rereads'⟩ := spelled'
  rw [Except.toOption_eq_some_iff] at denotes denotes'
  have wellFormed : spelledClaims.WellFormed := by
    simp [spelledClaims, Statement.Draft.partyKeys, Json.int, Json.WellFormed, Json.AllWellFormed,
      Json.AllMembersWellFormed, Members.Distinct]
  have evaluated : (Statement.ofClaims spelledClaims).toOption.map Statement.identifiers =
      some [⟨"https://User@127.0.0.1/B"⟩, ⟨"x://[::1]:8/%7e"⟩] := by
    decide +kernel
  obtain ⟨s, decoded, names⟩ := Option.map_eq_some_iff.mp evaluated
  obtain ⟨issuer, names'⟩ := List.cons.inj names
  obtain ⟨subject, -⟩ := List.cons.inj names'
  rw [Except.toOption_eq_some_iff] at decoded
  have denoted : ∀ id ∈ s.identifiers, id.Denoted := by
    rw [names, List.forall_mem_cons, List.forall_mem_singleton]
    exact ⟨⟨_, denotes, rereads⟩, _, denotes', rereads'⟩
  obtain ⟨kept, whole⟩ := ofStatements s denoted
  have saved := ofFiles ⟨"store", []⟩ _ s.issuer s.subject "a.b.c"
    (denoted _ (by simp [Statement.identifiers])) (denoted _ (by simp [Statement.identifiers])) rfl
  have trimmed : Text.trim "a.b.c" = "a.b.c" := by decide +kernel
  rw [trimmed] at saved
  refine ⟨s, _, decoded, issuer, subject, ?_, ?_, kept, whole (.decoded wellFormed decoded), ?_, saved⟩
  · rw [issuer]
    exact ofTexts _ _ denotes rereads
  · rw [subject]
    exact ofTexts _ _ denotes' rereads'
  · rw [StatementStore.saveFor, trimmed]
    rfl

/-- A drive letter is no segment like others once the slashes before it are gone. -/
example : (ofText "file://h//C:/x").toOption = some ⟨"file://h/C:/x"⟩ ∧
    (ofText "file://h/C:/x").toOption = none := by
  decide +kernel

end EntityId

end Federation
