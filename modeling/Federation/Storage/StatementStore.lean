import Federation.Resolution.Sources
import Federation.Storage.Folder
import Federation.Storage.StatementFile

/-!
# Statements in files

A store keeps each statement in a file of its own, in the folder `statements` of its location.

**One statement.**  `StatementStore.save`, `StatementStore.load?`, `StatementStore.contains` and
`StatementStore.remove` work on the file of one pair of issuer and subject.  A file whose content
is about another pair is an error.

**All statements.**  `StatementStore.list` reads every file whose name ends in `.json`, whatever it
is called otherwise.

**Failures.**  What a file holds is not trusted: `StatementStore.readNode` names the file in every
complaint.
-/

namespace Federation

/-- The files of a store. -/
structure StatementStore where
  /-- Where the store is, for messages. -/
  location : String
  /-- What the folder `statements` holds. -/
  entries : Folder

namespace StatementStore

/-- The folder that holds the files. -/
def folderName : String := "statements"

/-- A name inside a folder whose path is given as text. -/
def joined (base name : String) : String :=
  if base.isEmpty then name else if base.endsWith "/" then base ++ name else base ++ "/" ++ name

/-- The path of a file, for messages. -/
def path (store : StatementStore) (name : String) : String :=
  joined (joined store.location folderName) name

/-- What reading, writing or removing a folder as if it were a file gives. -/
def isFolder : Failure := .inputOutput "Is a directory (os error 21)"

/-- The statement file in an entry. -/
def readNode (store : StatementStore) (name : String) : FileNode → Except Failure StatementFile
  | .folder _ => .error isFolder
  | .file text =>
    match StatementFile.read? text with
    | none =>
      .error (.fileFormat
        s!"failed to parse statement file {store.path name}: {Failure.notJson}")
    | some file =>
      if file.version = StatementFile.currentVersion then .ok file
      else
        .error (.fileFormat
          s!"unsupported statement file version {file.version} in {store.path name}")

/-- The entry for a pair of issuer and subject. -/
def entry? (store : StatementStore) (issuer subject : EntityId) : Option FileNode :=
  store.entries.get? (StatementFile.name issuer subject)

/-- The signed statement of an issuer about a subject, if it is there. -/
def load? (store : StatementStore) (issuer subject : EntityId) :
    Except Failure (Option String) :=
  match store.entry? issuer subject with
  | none => .ok none
  | some node => do
    let name := StatementFile.name issuer subject
    let file ← store.readNode name node
    if file.issuer = issuer ∧ file.subject = subject then return some file.jws
    else
      .error (.fileFormat
        s!"{store.path name} holds a statement by {file.issuer} about {file.subject}")

/-- Whether there is an entry for a pair. -/
def contains (store : StatementStore) (issuer subject : EntityId) : Bool :=
  (store.entry? issuer subject).isSome

/-- Keeps a signed statement for a pair, whatever it says itself. -/
def saveFor (store : StatementStore) (issuer subject : EntityId) (raw : String) :
    Except Failure StatementStore :=
  match store.entry? issuer subject with
  | some (.folder _) => .error isFolder
  | _ =>
    let file : StatementFile :=
      { version := StatementFile.currentVersion, issuer, subject, jws := Text.trim raw }
    .ok { store with
      entries := store.entries.insert (StatementFile.name issuer subject) (.file file.text) }

/-- Keeps a signed statement for the issuer and the subject it names. -/
def save (store : StatementStore) (raw : String) :
    Except Failure ((EntityId × EntityId) × StatementStore) := do
  let claims ← (← Jws.read raw).unverifiedClaims
  let s ← Statement.ofClaims claims
  return ((s.issuer, s.subject), ← store.saveFor s.issuer s.subject raw)

/-- Removes the entry for a pair and says whether there was one. -/
def remove (store : StatementStore) (issuer subject : EntityId) :
    Except Failure (Bool × StatementStore) :=
  match store.entry? issuer subject with
  | none => .ok (false, store)
  | some (.folder _) => .error isFolder
  | some (.file _) =>
    .ok (true,
      { store with entries := store.entries.erase (StatementFile.name issuer subject) })

/-! ### All statements -/

/-- Whether the name of an entry ends in `.json` and is more than that. -/
def isStatementName (name : String) : Bool :=
  name.endsWith ".json" && name != ".json"

/-- The order of pairs: by issuer, then by subject. -/
def pairLe (a b : EntityId × EntityId) : Bool :=
  if a.1 = b.1 then a.2.text ≤ b.2.text else a.1.text ≤ b.1.text

/-- The pairs of all stored statements, sorted. -/
def list (store : StatementStore) : Except Failure (List (EntityId × EntityId)) := do
  let named := (store.entries.filter fun entry => isStatementName entry.1).mergeSort
    fun a b => a.1 ≤ b.1
  let files ← named.mapM fun (name, node) => store.readNode name node
  return (files.map fun file => (file.issuer, file.subject)).mergeSort pairLe

/-- Answers from the files.  A file that cannot be used is a failure of the transport. -/
def fetch : Fetcher StatementStore := fun issuer subject store =>
  match store.load? issuer subject with
  | .ok (some raw) => (.ok raw, store)
  | .ok none => (.error (.notFound issuer subject), store)
  | .error failure => (.error (.transport failure.message), store)

end StatementStore

end Federation
