import Federation.Json.Token

/-!
# JSON texts and their values

`Document` is what a JSON text says before anything is made of it: repeated names are still there,
and literals are as written.  Two readers build on it.

**Values.**  `Json.parse?` makes a `Json` of a document.  Of a repeated name the first place and the
last value survive, a number that is too large or half a character pair makes the text unreadable,
and so does nesting deeper than `Json.maxDepth`.

**Records.**  A reader that asks for fixed members looks at the document itself, because there a
repeated member is an error and members it does not know may hold anything.

**Reading.**  `Document.Reader` is a machine that takes one token at a time.  Its state says what
may come next and holds the arrays and objects that are still open, innermost first, so reading is a
fold over the tokens.
-/

namespace Federation.Json

/-- A JSON text as written. -/
inductive Document where
  | null
  | boolean (value : Bool)
  | number (numeral : Numeral)
  | string (literal : Literal)
  | array (items : List Document)
  | object (members : List (Literal × Document))

namespace Document

/-- An array or object that is still open, with what it holds so far, last part first. -/
inductive Frame where
  | items (before : List Document)
  | members (before : List (Literal × Document)) (name : Literal)

/-- What has been read and what may follow. -/
inductive Reader where
  /-- A value must follow. -/
  | wantsValue (outer : List Frame)
  /-- An array has just been opened. -/
  | wantsFirstItem (outer : List Frame)
  /-- An object has just been opened. -/
  | wantsFirstName (outer : List Frame)
  /-- A comma in an object must be followed by a name. -/
  | wantsName (before : List (Literal × Document)) (outer : List Frame)
  /-- A name must be followed by a colon. -/
  | wantsColon (before : List (Literal × Document)) (name : Literal) (outer : List Frame)
  /-- A value is complete. -/
  | complete (value : Document) (outer : List Frame)

namespace Reader

/-- Takes the first token of a value. -/
def begin (outer : List Frame) : Token → Option Reader
  | .null => some (.complete .null outer)
  | .boolean value => some (.complete (.boolean value) outer)
  | .number numeral => some (.complete (.number numeral) outer)
  | .string literal => some (.complete (.string literal) outer)
  | .openArray => some (.wantsFirstItem outer)
  | .openObject => some (.wantsFirstName outer)
  | _ => none

/-- Takes one token. -/
def step : Reader → Token → Option Reader
  | .wantsValue outer, token => begin outer token
  | .wantsFirstItem outer, .closeArray => some (.complete (.array []) outer)
  | .wantsFirstItem outer, token => begin (.items [] :: outer) token
  | .wantsFirstName outer, .closeObject => some (.complete (.object []) outer)
  | .wantsFirstName outer, .string name => some (.wantsColon [] name outer)
  | .wantsName before outer, .string name => some (.wantsColon before name outer)
  | .wantsColon before name outer, .colon => some (.wantsValue (.members before name :: outer))
  | .complete value (.items before :: outer), .comma =>
    some (.wantsValue (.items (value :: before) :: outer))
  | .complete value (.items before :: outer), .closeArray =>
    some (.complete (.array (value :: before).reverse) outer)
  | .complete value (.members before name :: outer), .comma =>
    some (.wantsName ((name, value) :: before) outer)
  | .complete value (.members before name :: outer), .closeObject =>
    some (.complete (.object ((name, value) :: before).reverse) outer)
  | _, _ => none

/-- The document, if it is complete. -/
def finish? : Reader → Option Document
  | .complete value [] => some value
  | _ => none

end Reader

/-- The document that tokens make. -/
def ofTokens? (tokens : List Token) : Option Document := do
  let reader ← tokens.foldlM Reader.step (.wantsValue [])
  reader.finish?

/-- The document a text holds, blanks around it allowed. -/
def parse? (text : String) : Option Document :=
  (tokens? text.toList).bind ofTokens?

mutual

/-- How deep arrays and objects are nested. -/
def depth : Document → Nat
  | .array items => depthOfItems items + 1
  | .object members => depthOfMembers members + 1
  | _ => 0

/-- The greatest depth among items. -/
def depthOfItems : List Document → Nat
  | [] => 0
  | item :: rest => max (depth item) (depthOfItems rest)

/-- The greatest depth among members. -/
def depthOfMembers : List (Literal × Document) → Nat
  | [] => 0
  | (_, value) :: rest => max (depth value) (depthOfMembers rest)

end

mutual

/-- The value of a document, unless a literal in it has none. -/
def value? : Document → Option Json
  | .null => some .null
  | .boolean value => some (.boolean value)
  | .number numeral => numeral.value?.map .number
  | .string literal => (Literal.text? literal).map .string
  | .array items => (valuesOfItems? items).map .array
  | .object members => (valuesOfMembers? members).map fun written => .object (Members.ofList written)

/-- The values of items. -/
def valuesOfItems? : List Document → Option (List Json)
  | [] => some []
  | item :: rest => do return (← value? item) :: (← valuesOfItems? rest)

/-- The names and values of members as written. -/
def valuesOfMembers? : List (Literal × Document) → Option (List (String × Json))
  | [] => some []
  | (name, value) :: rest => do
    return (← Literal.text? name, ← value? value) :: (← valuesOfMembers? rest)

end

/-- The members of an object under their names, repeated ones included, unless a name has no
text. -/
def namedMembers? (members : List (Literal × Document)) : Option (List (String × Document)) :=
  members.mapM fun (name, value) => (Literal.text? name).map (·, value)

/-- The text, if the document is a string that has one. -/
def text? : Document → Option String
  | .string literal => Literal.text? literal
  | _ => none

end Document

/-- How deep arrays and objects of a text may be nested. -/
def maxDepth : Nat := 127

/-- The value of a JSON text. -/
def parse? (text : String) : Option Json := do
  let document ← Document.parse? text
  if document.depth ≤ maxDepth then document.value? else none

end Federation.Json
