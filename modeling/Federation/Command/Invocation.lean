import Federation.Command.Grammar
import Federation.EntityType
import Federation.Resolution.Search
import Federation.Storage.StatementStore

/-!
# Commands

What the command line of the program can ask for.  `Invocation.read` makes an `Invocation` of the
words of a command line and of the environment.

**Store.**  Every command may name the location of the store, before or behind its own name; the
last mention counts.  Wherever there is none, an environment variable stands in for it, which then
must not be empty.

**Values.**  Paths must not be empty.  Numbers are written in decimal digits with an optional sign.
-/

namespace Federation.Command

/-- What is to be done. -/
inductive Task where
  /-- Makes a signing key. -/
  | makeKey (out : String) (keySetOut : Option String) (force : Bool)
  /-- Shows the public half of a signing key. -/
  | showKeys (key : String)
  /-- Signs claims and stores the statement. -/
  | sign (key claims : String) (noStore : Bool)
  /-- Stores a signed statement. -/
  | addStatement (file : String)
  /-- Lists the stored statements. -/
  | listStatements
  /-- Shows the claims of a stored statement. -/
  | showStatement (issuer subject : String)
  /-- Removes a stored statement. -/
  | removeStatement (issuer subject : String)
  /-- Resolves a trust chain. -/
  | resolve (leaf anchor anchorKeys : String) (entityType : EntityType) (maxHops : Nat)
      (time : Option Int) (asJson : Bool)
  /-- Combines policies. -/
  | combinePolicies (files : List String)
  /-- Holds metadata to a policy. -/
  | applyPolicy (policy metadata : String)

/-- The files a task reads or writes outside the store. -/
def Task.paths : Task → List String
  | makeKey out keySetOut _ => out :: keySetOut.toList
  | showKeys key => [key]
  | sign key claims _ => [key, claims]
  | addStatement file => [file]
  | resolve _ _ anchorKeys _ _ _ _ => [anchorKeys]
  | combinePolicies files => files
  | applyPolicy policy metadata => [policy, metadata]
  | _ => []

/-- The files a task writes that nobody else may read. -/
def Task.secrets : Task → List String
  | makeKey out _ _ => [out]
  | _ => []

/-- Whether a task needs the store. -/
def Task.usesStore : Task → Bool
  | sign _ _ _ => true
  | addStatement _ => true
  | listStatements => true
  | showStatement _ _ => true
  | removeStatement _ _ => true
  | resolve _ _ _ _ _ _ _ => true
  | _ => false

/-- A command with the options that all commands share. -/
structure Invocation where
  /-- The location of the store, if it is given. -/
  store : Option String
  /-- Whether more is to be said than usual. -/
  verbose : Bool
  task : Task

/-! ### Values -/

/-- The number that digits with an optional sign denote. -/
def integer? (text : String) : Option Int :=
  let (negative, digits) :=
    match text.toList with
    | '-' :: rest => (true, rest)
    | '+' :: rest => (false, rest)
    | all => (false, all)
  if digits.isEmpty || !digits.all Char.isDigit then none
  else
    let n := digits.foldl (fun n c => 10 * n + (c.toNat - '0'.toNat)) 0
    some (if negative then -(n : Int) else n)

/-- A number of 64 bits with sign. -/
def time? (text : String) : Option Int :=
  match integer? text with
  | some n => if -0x8000000000000000 ≤ n ∧ n < 0x8000000000000000 then some n else none
  | none => none

/-- A number of 64 bits without sign. -/
def count? (text : String) : Option Nat :=
  match integer? text with
  | some n => if !text.startsWith "-" ∧ n < UInt64.size then some n.toNat else none
  | none => none

/-! ### Grammar -/

/-- An option with a path. -/
def pathChoice (name : String) : Choice := ⟨name, none, some fun value => !value.isEmpty⟩

/-- An option with any text. -/
def textChoice (name : String) : Choice := ⟨name, none, some fun _ => true⟩

/-- An option without a value. -/
def flagChoice (name : String) : Choice := ⟨name, none, none⟩

/-- The options all commands share. -/
def sharedChoices : List Choice :=
  [pathChoice "store", ⟨"verbose", some 'v', none⟩]

/-- A command without subcommands. -/
def leafGrammar (choices : List Choice) (operands : Operands) : Grammar :=
  .node (choices ++ sharedChoices) operands []

/-- A command that is nothing without a subcommand. -/
def branchGrammar (children : List (String × Grammar)) : Grammar :=
  .node sharedChoices .none children

/-- The commands on the store. -/
def storeGrammar : Grammar :=
  let pair := leafGrammar [textChoice "issuer", textChoice "subject"] .none
  branchGrammar
    [("add", leafGrammar [] .one), ("list", leafGrammar [] .none), ("show", pair), ("remove", pair)]

/-- The commands on policies. -/
def policyGrammar : Grammar :=
  branchGrammar
    [("merge", leafGrammar [] .many),
      ("apply", leafGrammar [pathChoice "policy", pathChoice "metadata"] .none)]

/-- The options of a resolution. -/
def resolveGrammar : Grammar :=
  leafGrammar
    [textChoice "leaf", textChoice "anchor", pathChoice "anchor-jwks", textChoice "entity-type",
      ⟨"max-hops", none, some fun value => (count? value).isSome⟩,
      ⟨"at", none, some fun value => (time? value).isSome⟩, flagChoice "json"] .none

/-- All commands. -/
def grammar : Grammar :=
  branchGrammar
    [("keygen", leafGrammar [pathChoice "out", pathChoice "jwks-out", flagChoice "force"] .none),
      ("jwks", leafGrammar [pathChoice "key"] .none),
      ("sign", leafGrammar [pathChoice "key", pathChoice "claims", flagChoice "no-store"] .none),
      ("store", storeGrammar), ("resolve", resolveGrammar), ("policy", policyGrammar)]

/-! ### Reading -/

/-- The value of an option that must be given. -/
def required (r : Reading) (name : String) : Except Halt String :=
  match r.value? name with
  | some value => .ok value
  | none => .error .misuse

/-- A resolution as it was asked for. -/
def readResolve (r : Reading) : Except Halt Task := do
  return .resolve (← required r "leaf") (← required r "anchor") (← required r "anchor-jwks")
    (((r.value? "entity-type").map EntityType.mk).getD EntityType.openidRelyingParty)
    (((r.value? "max-hops").bind count?).getD Terms.defaultMaxHops)
    ((r.value? "at").bind time?) (r.has "json")

/-- The task that the names of subcommands and the words of the last one ask for. -/
def readTask (names : List String) (r : Reading) : Except Halt Task :=
  match names, r.operands with
  | ["keygen"], _ => do
    return .makeKey (← required r "out") (r.value? "jwks-out") (r.has "force")
  | ["jwks"], _ => do return .showKeys (← required r "key")
  | ["sign"], _ => do
    return .sign (← required r "key") (← required r "claims") (r.has "no-store")
  | ["store", "add"], [file] => .ok (.addStatement file)
  | ["store", "list"], _ => .ok .listStatements
  | ["store", "show"], _ => do
    return .showStatement (← required r "issuer") (← required r "subject")
  | ["store", "remove"], _ => do
    return .removeStatement (← required r "issuer") (← required r "subject")
  | ["resolve"], _ => readResolve r
  | ["policy", "merge"], files =>
    if files.isEmpty then .error .misuse else .ok (.combinePolicies files)
  | ["policy", "apply"], _ => do
    return .applyPolicy (← required r "policy") (← required r "metadata")
  | _, _ => .error .misuse

/-- The environment variable that names the store. -/
def storeVariable : String := "FEDTRUST_STORE"

/-- The location of the store that the environment names. -/
def storeFromEnvironment (environment : List (String × String)) : Except Halt (Option String) :=
  match environment.lookup storeVariable with
  | none => .ok none
  | some location => if location.isEmpty then .error .misuse else .ok (some location)

/-- The location of the store: as given, or a hidden folder at home. -/
def Invocation.storeLocation? (i : Invocation) (environment : List (String × String)) :
    Option String :=
  match i.store with
  | some location => some location
  | none => (environment.lookup "HOME").map fun home => StatementStore.joined home ".fedtrust"

/-- The invocation that words and environment make. -/
def Invocation.read (words : List String) (environment : List (String × String)) :
    Except Halt Invocation := do
  let (names, readings) ← grammar.read true Reading.start words
  let given := readings.filterMap fun r => r.value? "store"
  let standing ←
    if readings.all fun r => r.has "store" then pure none else storeFromEnvironment environment
  let store := given.getLast?.or standing
  let task ← readTask names (readings.getLastD Reading.start)
  return { store, verbose := readings.any fun r => r.has "verbose", task }

end Federation.Command
