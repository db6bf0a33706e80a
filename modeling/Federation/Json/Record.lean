import Federation.Json.Document

/-!
# Records

A record is an object that is read for members of known names.  None of these may be repeated; what
else is in the object does not count.  An array of the values of all known members, in order, is the
same record.

**Members.**  A member may be optional, which means that it may also be null.  A member that says one
of several names is the name, or an object with the name as its only member.
-/

namespace Federation.Json.Document

/-- The members of known names, unless one is repeated. -/
def known? (names : List String) (members : List (String × Document)) :
    Option (List (String × Document)) :=
  let known := members.filter fun member => names.contains member.1
  if (known.map Prod.fst).Nodup then some known else none

/-- The known members of a record. -/
def record? (names : List String) : Document → Option (List (String × Document))
  | .object members => (namedMembers? members).bind (known? names)
  | .array items => if items.length = names.length then some (names.zip items) else none
  | _ => none

/-- Whether a document is null. -/
def isNull : Document → Bool
  | .null => true
  | _ => false

/-- A member that is absent, null or a text. -/
def optionalText? : Option Document → Option (Option String)
  | none => some none
  | some .null => some none
  | some document => document.text?.map some

/-- Whether a member is absent, null or a list of texts. -/
def isOptionalTexts : Option Document → Bool
  | none => true
  | some .null => true
  | some (.array items) => items.all fun item => item.text?.isSome
  | some _ => false

/-- The name that a member says, by itself or as an object that holds nothing of weight under it. -/
def name? (isEmpty : Document → Bool) : Document → Option String
  | .object [(name, value)] => if isEmpty value then Literal.text? name else none
  | document => document.text?

end Federation.Json.Document
