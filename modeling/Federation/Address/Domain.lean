import Federation.Address.Direction
import Federation.Address.Joining
import Federation.Address.NameMapping
import Federation.Address.Punycode
import Federation.Text.Bytes
import Federation.Text.Composed

/-!
# Host names

A host name is a list of labels with dots between them.  `Domain.toAscii?` gives the form in which
names are compared and sent: in lower case and in ASCII.

**Plain names.**  A name in ASCII without encoded labels is only put into lower case and held against
the characters no name may hold.

**International names.**  The characters of any other name are mapped and composed first.  A label
beyond ASCII is encoded (`Punycode.encode`) and marked as such; a label that is already marked must be
one that this function could have produced.  No label may begin with a mark or hold a joiner without
effect, and names that are written from right to left must be orderly.
-/

namespace Federation.Domain

/-- Characters that no host name may hold. -/
def isForbidden (c : Char) : Bool :=
  c ≤ ' ' || c == '\x7f' ||
    ['%', '#', '/', ':', '<', '>', '?', '@', '[', '\\', ']', '^', '|'].contains c

/-- Whether a character is in ASCII. -/
def isAscii (c : Char) : Bool := c.toNat < 128

/-- What an encoded label begins with. -/
def mark : List Char := "xn--".toList

/-- The labels of a name. -/
def labelsOf : List Char → List (List Char)
  | [] => [[]]
  | c :: rest =>
    if c == '.' then [] :: labelsOf rest
    else
      match labelsOf rest with
      | [] => [[c]]
      | label :: labels => (c :: label) :: labels

/-- The name that labels make. -/
def nameOf (labels : List (List Char)) : List Char :=
  List.intercalate ['.'] labels

/-! ### Plain names -/

/-- Whether a name is in ASCII and none of its labels is encoded. -/
def isPlain (cs : List Char) : Bool :=
  cs.all isAscii && (labelsOf (cs.map Char.toLower)).all fun label => !mark.isPrefixOf label

/-- A plain name in lower case. -/
def plainName? (cs : List Char) : Option (List Char) :=
  if cs.any isForbidden then none else some (cs.map Char.toLower)

/-! ### International names -/

/-- A label as it is read and as it is written in ASCII. -/
structure Label where
  shown : List Char
  written : List Char

/-- The most characters that an encoded label may stand for. -/
def longestShown : Nat := 1000

/-- The longest encoded text that is read. -/
def longestWritten : Nat := 2000

/-- Whether a label beyond ASCII may stand in a name: it begins with no mark, and joiners in it have
an effect. -/
def isAdmissible (label : List Char) : Bool :=
  (match label with
    | [] => false
    | first :: _ => !Text.isMark first) && Joining.allFit [] label

/-- Whether mapping and composing a label changes nothing. -/
def isStable (label : List Char) : Bool :=
  label.all (fun c => mapped? c == some [c]) && Text.Composed.form label == label

/-- An encoded label, given without its mark. -/
def encodedLabel? (text : List Char) : Option Label :=
  if text.any (fun c => !isAscii c) || longestWritten < text.length then none
  else
    match Punycode.decode? text with
    | none => none
    | some shown =>
      if shown.all isAscii || longestShown < shown.length || !isStable shown ||
          !isAdmissible shown then none
      else some ⟨shown, mark ++ text⟩

/-- A label whose characters are mapped and composed. -/
def label? (label : List Char) : Option Label :=
  if label.any isForbidden then none
  else if mark.isPrefixOf label then encodedLabel? (label.drop mark.length)
  else if label.all isAscii then some ⟨label, label⟩
  else if !isAdmissible label || longestShown < label.length then none
  else some ⟨label, mark ++ Punycode.encode label⟩

/-- Any name, in ASCII. -/
def internationalName? (cs : List Char) : Option (List Char) := do
  let mapped ← cs.mapM mapped?
  let labels ← (labelsOf (Text.Composed.form mapped.flatten)).mapM label?
  let shown := labels.map Label.shown
  if shown.any Direction.turns && !shown.all (fun label => label.isEmpty || Direction.isOrderly label)
  then none
  else some (nameOf (labels.map Label.written))

/-- The ASCII form of a name, given as bytes. -/
def toAscii? (bs : List UInt8) : Option String := do
  let cs := (← Text.ofBytes? bs).toList
  let name ← if isPlain cs then plainName? cs else internationalName? cs
  return String.ofList name

end Federation.Domain
