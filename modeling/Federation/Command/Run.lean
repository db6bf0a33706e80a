import Federation.Command.Invocation
import Federation.Resolution.Outcome
import Federation.Statement.Lifetime
import Federation.Storage.Path
import Federation.Storage.StatementStore

/-!
# Running commands

A command reads and writes files, prints and may fail.  Running one is a function of the files, the
environment, the time and a supply of random bytes.

**Work.**  `Work` changes the files and the output and may fail with a message for the user.
What was done before a failure stays done.

**Messages.**  A failure is reported by the step that failed, not by its cause.

**Result.**  `Report` is what the caller of the program sees: the exit code, both outputs and the
files.
-/

namespace Federation.Command

/-- What a command works on. -/
structure Desk where
  /-- The working directory. -/
  files : Folder
  /-- What has been printed. -/
  output : String

/-- Steps of a command. -/
abbrev Work (α : Type) : Type :=
  ExceptT String (StateM Desk) α

/-- What a command cannot know from its files. -/
structure Surroundings where
  /-- The variables of the environment. -/
  environment : List (String × String)
  /-- The time in seconds. -/
  now : Int
  /-- 32 random bytes. -/
  random : List UInt8

namespace Work

/-- Ends the command. -/
def fail {α : Type} (message : String) : Work α :=
  fun desk => (.error message, desk)

/-- Prints a line. -/
def say (line : String) : Work Unit :=
  fun desk => (.ok (), { desk with output := desk.output ++ line ++ "\n" })

/-- Prints a value over several lines. -/
def sayJson (value : Json) : Work Unit := say value.pretty

/-- A result, with a message of the command's own instead of the cause of a failure. -/
def orFail {ε α : Type} (result : Except ε α) (message : String) : Work α :=
  match result with
  | .ok a => pure a
  | .error _ => fail message

/-- A result whose failure speaks for itself. -/
def orTell {α : Type} (result : Except Failure α) : Work α :=
  match result with
  | .ok a => pure a
  | .error failure => fail failure.message

/-! ### Files -/

/-- The text of a file. -/
def loadText (path message : String) : Work String :=
  fun desk =>
    match desk.files.textAt? path with
    | some text => (.ok text, desk)
    | none => (.error message, desk)

/-- Writes a file. -/
def saveText (path text : String) : Work Unit :=
  fun desk =>
    match desk.files.withText? path text with
    | some files => (.ok (), { desk with files := files })
    | none => (.error s!"failed to write {path}", desk)

/-- The value in a file. -/
def readJson (path : String) : Work Json := do
  let text ← loadText path s!"failed to read {path}"
  match Json.parse? text with
  | some value => return value
  | none => fail s!"{path} is not valid JSON"

/-- The object in a file. -/
def readObject (path : String) : Work (Members Json) := do
  match ← readJson path with
  | .object members => return members
  | _ => fail s!"{path} must contain a JSON object"

/-- The signing key in a file. -/
def readKey (path : String) : Work SigningKey := do
  let text ← loadText path s!"failed to read key file {path}"
  orFail (SigningKey.read text) s!"{path} does not hold a signing key"

/-- The policy in a file. -/
def readPolicy (path : String) : Work Policy := do
  let value ← readJson path
  orFail (Policy.ofJson value) s!"{path} is not a metadata policy"

/-! ### The store -/

/-- The location of the store. -/
def storeLocation (i : Invocation) (s : Surroundings) : Work String :=
  match i.storeLocation? s.environment with
  | some location => pure location
  | none => fail "HOME not set; pass --store or FEDTRUST_STORE"

/-- The path of the folder that holds the files of a store. -/
def storePath (location : String) : String :=
  StatementStore.joined location StatementStore.folderName

/-- The store, made if it is not there. -/
def openStore (i : Invocation) (s : Surroundings) : Work StatementStore := do
  let location ← storeLocation i s
  fun desk =>
    match desk.files.make (storePath location) with
    | (files, true) =>
      let entries := (files.folderAt? (Path.names (storePath location))).getD []
      (.ok ⟨location, entries⟩, { desk with files := files })
    | (files, false) =>
      (.error s!"failed to open statement store at {location}", { desk with files := files })

/-- Writes a changed store back. -/
def closeStore (store : StatementStore) : Work Unit :=
  fun desk =>
    let names := Path.names (storePath store.location)
    let files := (desk.files.put? (.folder store.entries) names).getD desk.files
    (.ok (), { desk with files := files })

end Work

open Work

/-! ### Keys -/

/-- Makes a signing key. -/
def makeKey (out : String) (keySetOut : Option String) (force verbose : Bool)
    (random : List UInt8) : Work Unit := do
  if !force && (← get).files.hasPath out then
    fail s!"key file {out} already exists (use --force to overwrite)"
  let key : SigningKey := ⟨random⟩
  saveText out key.text
  say "Generated federation key"
  say s!"  Key ID: {key.id}"
  say s!"  File:   {out}"
  match keySetOut with
  | some path =>
    saveText path key.publicKeys.toJson.pretty
    say s!"  JWKS:   {path}"
  | none => pure ()
  if verbose then say ("  Public: " ++ key.publicKey.x.getD "")

/-- Shows the public half of a signing key. -/
def showKeys (path : String) : Work Unit := do
  let key ← readKey path
  sayJson key.publicKeys.toJson

/-! ### Statements -/

/-- Claims with the times of issue and expiry they lack. -/
def withTimes (claims : Members Json) (now : Int) : Members Json :=
  let issuedAt := ((claims.get? "iat").bind Json.int64?).getD now
  let dated := if claims.has "iat" then claims else claims.insert "iat" (.int issuedAt)
  if dated.has "exp" then dated else dated.insert "exp" (.int (Lifetime.endOf issuedAt))

/-- Signs claims and stores the statement. -/
def sign (i : Invocation) (s : Surroundings) (keyPath claimsPath : String) (noStore : Bool) :
    Work Unit := do
  let key ← readKey keyPath
  let claims ← readObject claimsPath
  let statement ← orFail (Statement.ofMembers (withTimes claims s.now)) "invalid statement claims"
  orFail statement.checkRequired "invalid statement claims"
  if statement.isSelfIssued && (statement.keys.find? key.id).isNone then
    fail (s!"entity configuration of {statement.subject} does not publish " ++
      s!"the signing key {key.id}")
  let raw ← orFail (Jws.sign statement.toClaims key) "failed to sign statement"
  if noStore then say raw
  else
    let store ← openStore i s
    let changed ← orFail (store.saveFor statement.issuer statement.subject raw)
      "failed to store statement"
    closeStore changed
    say "Signed statement"
    say s!"  Issuer:  {statement.issuer}"
    say s!"  Subject: {statement.subject}"
    say s!"  Expires: {Calendar.readableText statement.expiresAt}"
    if i.verbose then
      say s!"  Key ID:  {key.id}"
      say s!"  Store:   {store.location}"

/-- Stores a signed statement. -/
def addStatement (i : Invocation) (s : Surroundings) (path : String) : Work Unit := do
  let raw ← loadText path s!"failed to read {path}"
  let store ← openStore i s
  let ((issuer, subject), changed) ← orFail (store.save raw) "failed to store statement"
  closeStore changed
  say s!"Stored statement by {issuer} about {subject}"

/-- Lists the stored statements. -/
def listStatements (i : Invocation) (s : Surroundings) : Work Unit := do
  let store ← openStore i s
  let pairs ← orFail store.list "failed to list statements"
  if pairs.isEmpty then say "No statements stored."
  else
    say s!"Statements ({pairs.length}):"
    for (issuer, subject) in pairs do
      if issuer = subject then say s!"  {issuer} (configuration)"
      else say s!"  {issuer} -> {subject}"
    if i.verbose then say s!"Store: {store.location}"

/-- Shows the claims of a stored statement. -/
def showStatement (i : Invocation) (s : Surroundings) (issuer subject : String) :
    Work Unit := do
  let issuer ← orTell (EntityId.read issuer)
  let subject ← orTell (EntityId.read subject)
  let store ← openStore i s
  match ← orTell (store.load? issuer subject) with
  | none => fail s!"no statement by {issuer} about {subject}"
  | some raw =>
    let jws ← orTell (Jws.read raw)
    sayJson (← orTell jws.unverifiedClaims)

/-- Removes a stored statement. -/
def removeStatement (i : Invocation) (s : Surroundings) (issuer subject : String) :
    Work Unit := do
  let issuer ← orTell (EntityId.read issuer)
  let subject ← orTell (EntityId.read subject)
  let store ← openStore i s
  let (removed, changed) ← orTell (store.remove issuer subject)
  if removed then
    closeStore changed
    say s!"Removed statement by {issuer} about {subject}"
  else fail s!"no statement by {issuer} about {subject}"

/-! ### Resolution and policies -/

/-- Prints a chain. -/
def showChain (chain : TrustChain) : Work Unit := do
  say "Trust chain resolved"
  say s!"  Leaf:        {chain.leaf.subject}"
  say s!"  Anchor:      {chain.anchor.subject}"
  say s!"  Statements:  {chain.size}"
  say s!"  Expires:     {Calendar.readableText chain.expiresAt}"
  say "  Path:"
  for entity in chain.path do
    say s!"    - {entity}"
  say s!"  Metadata ({chain.entityType}):"
  sayJson (.object chain.metadata)

/-- Resolves a trust chain from the store. -/
def resolveChain (i : Invocation) (s : Surroundings) (leaf anchor keysPath : String)
    (entityType : EntityType) (maxHops : Nat) (time : Option Int) (asJson : Bool) :
    Work Unit := do
  let leaf ← orTell (EntityId.read leaf)
  let anchor ← orTell (EntityId.read anchor)
  let written ← readJson keysPath
  let anchorKeys ← orFail (KeySet.read written) s!"{keysPath} does not hold a JWK Set"
  let store ← openStore i s
  let resolver : Resolver StatementStore := ⟨StatementStore.fetch, Verifier.ed25519⟩
  let terms : Terms := { anchor, anchorKeys, maxHops, entityType, now := time.getD s.now }
  let chain ← orFail (resolver.resolveEntity leaf terms store).result
    s!"failed to resolve a trust chain for {leaf}"
  if asJson then sayJson chain.toJson else showChain chain

/-- Combines policies, the superior one first. -/
def combinePolicies (paths : List String) : Work Unit := do
  let policies ← paths.mapM readPolicy
  let combined ← orFail (Policy.combine policies) "policies do not merge"
  sayJson combined.toJson

/-- Holds metadata to a policy. -/
def applyPolicy (policyPath metadataPath : String) : Work Unit := do
  let policy ← readPolicy policyPath
  let metadata ← readObject metadataPath
  let applied ← orFail (policy.apply metadata) "metadata violates the policy"
  sayJson (.object applied)

/-! ### The program -/

/-- Runs a command. -/
def Invocation.run (i : Invocation) (s : Surroundings) : Work Unit :=
  match i.task with
  | .makeKey out keySetOut force => makeKey out keySetOut force i.verbose s.random
  | .showKeys key => showKeys key
  | .sign key claims noStore => sign i s key claims noStore
  | .addStatement file => addStatement i s file
  | .listStatements => listStatements i s
  | .showStatement issuer subject => showStatement i s issuer subject
  | .removeStatement issuer subject => removeStatement i s issuer subject
  | .resolve leaf anchor anchorKeys entityType maxHops time asJson =>
    resolveChain i s leaf anchor anchorKeys entityType maxHops time asJson
  | .combinePolicies files => combinePolicies files
  | .applyPolicy policy metadata => applyPolicy policy metadata

/-- What the caller of the program sees. -/
structure Report where
  code : Nat
  output : String
  errors : String
  /-- The working directory afterwards. -/
  files : Folder

/-- The name and the version of the program. -/
def versionLine : String := "fedtrust 0.1.0\n"

/-- The commands of the program. -/
def usage : String :=
  "Usage: fedtrust [--store DIR] [--verbose] COMMAND\n" ++
  "  keygen --out FILE [--jwks-out FILE] [--force]\n" ++
  "  jwks --key FILE\n" ++
  "  sign --key FILE --claims FILE [--no-store]\n" ++
  "  store add FILE | list | show --issuer ID --subject ID | remove --issuer ID --subject ID\n" ++
  "  resolve --leaf ID --anchor ID --anchor-jwks FILE [--entity-type TYPE] [--max-hops N]\n" ++
  "    [--at SECONDS] [--json]\n" ++
  "  policy merge FILE... | apply --policy FILE --metadata FILE\n"

/-- Runs the program on the words of a command line. -/
def execute (words : List String) (s : Surroundings) (files : Folder) : Report :=
  match Invocation.read words s.environment with
  | .error .misuse => ⟨2, "", usage, files⟩
  | .error .help => ⟨0, usage, "", files⟩
  | .error .version => ⟨0, versionLine, "", files⟩
  | .ok i =>
    match i.run s ⟨files, ""⟩ with
    | (.ok (), desk) => ⟨0, desk.output, "", desk.files⟩
    | (.error message, desk) => ⟨1, desk.output, s!"error: {message}\n", desk.files⟩

end Federation.Command
