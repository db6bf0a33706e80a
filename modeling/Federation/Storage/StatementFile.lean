import Federation.Crypto.Sha2
import Federation.Failure
import Federation.Json.Printer
import Federation.Json.Record

/-!
# Files that hold a statement

A stored statement is a JSON file with a version, issuer, subject and the signed text.

**Names.**  `StatementFile.name` is the digest of issuer and subject with a bar between them.

**Reading.**  `StatementFile.read?` looks for the four members.  Others may hold anything, but none
of the four may be repeated.  An array of the four values in order is read as well.
-/

namespace Federation

/-- What a file says about the statement in it. -/
structure StatementFile where
  version : Nat
  issuer : EntityId
  subject : EntityId
  /-- The signed text. -/
  jws : String
deriving DecidableEq

namespace StatementFile

/-- The version that is written and understood. -/
def currentVersion : Nat := 1

/-- The name of the file for a pair of issuer and subject. -/
def name (issuer subject : EntityId) : String :=
  Text.hex (Sha2.sha256 (Text.bytes s!"{issuer}|{subject}")) ++ ".json"

/-- The file as it is written. -/
def text (file : StatementFile) : String :=
  Json.pretty <| .object
    [("version", .int file.version), ("issuer", .string file.issuer.text),
      ("subject", .string file.subject.text), ("jws", .string file.jws)]

/-! ### Reading -/

/-- The members, in the order of the array form. -/
def memberNames : List String := ["version", "issuer", "subject", "jws"]

/-- A version: an integer of 32 bits without sign. -/
def version? : Json.Document → Option Nat
  | .number numeral =>
    match numeral.value? with
    | some (.integer n) => if 0 ≤ n ∧ n < UInt32.size then some n.toNat else none
    | _ => none
  | _ => none

/-- An entity identifier. -/
def id? (document : Json.Document) : Option EntityId :=
  document.text?.bind fun text => (EntityId.ofText text).toOption

/-- The file a document describes. -/
def ofDocument? (document : Json.Document) : Option StatementFile := do
  let members ← document.record? memberNames
  let version ← (members.lookup "version").bind version?
  let issuer ← (members.lookup "issuer").bind id?
  let subject ← (members.lookup "subject").bind id?
  let jws ← (members.lookup "jws").bind Json.Document.text?
  return { version, issuer, subject, jws }

/-- The file a text describes. -/
def read? (text : String) : Option StatementFile :=
  (Json.Document.parse? text).bind ofDocument?

end StatementFile

end Federation
