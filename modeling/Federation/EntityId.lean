import Federation.Address.Reader
import Federation.Text.Blank
import Federation.Text.Quoted

/-!
# Entity identifiers

An entity is named by an absolute URI with a host and without query and fragment.  Two spellings of
one URI are one identifier, and so are two URIs that differ in slashes at the end only.

**Reading.**  `EntityId.ofText` normalizes; what it does not accept is an `EntityId.Defect`.

**Subtrees.**  `EntityId.isUnder` orders identifiers by the tree of their paths: an identifier is
under another when it is the same or goes on after a slash, so `https://example.com` covers
`https://example.com/rp` but not `https://example.community`.
-/

namespace Federation

/-- The identifier of an entity. -/
structure EntityId where
  /-- The normalized URI. -/
  text : String
deriving DecidableEq, Inhabited

namespace EntityId

/-- Why a text is no identifier. -/
inductive Defect where
  /-- It holds a blank or a control character. -/
  | blank (value : String)
  /-- It is no absolute URI. -/
  | notAbsolute (value : String) (why : Address.Defect)
  /-- It has no host. -/
  | noAuthority (value : String)
  /-- It has a query or a fragment. -/
  | queryOrFragment (value : String)
deriving DecidableEq

/-- The defect in words. -/
def Defect.message : Defect → String
  | .blank value =>
    "entity id contains whitespace or control characters: " ++ Text.quoted value
  | .notAbsolute value why => s!"entity id is not an absolute URI: {value}: {why.message}"
  | .noAuthority value => s!"entity id has no authority: {value}"
  | .queryOrFragment value => s!"entity id must not carry a query or fragment: {value}"

/-- A text without slashes at its end. -/
def withoutFinalSlashes (s : String) : String :=
  String.ofList (s.toList.reverse.dropWhile (· == '/')).reverse

/-- The identifier a text denotes.  Blanks around it do not count. -/
def ofText (text : String) : Except Defect EntityId :=
  let value := Text.trim text
  if value.toList.any fun c => Text.isBlank c || Text.isControl c then .error (.blank value)
  else
    match Address.ofText value with
    | .error why => .error (.notAbsolute value why)
    | .ok none => .error (.noAuthority value)
    | .ok (some address) =>
      if address.suffix.isEmpty then .ok ⟨withoutFinalSlashes address.text⟩
      else .error (.queryOrFragment value)

/-- Whether an identifier is another one or lies in its subtree. -/
def isUnder (id root : EntityId) : Bool :=
  id == root || (root.text.toList ++ ['/']).isPrefixOf id.text.toList

instance : ToString EntityId := ⟨text⟩

end EntityId

end Federation
