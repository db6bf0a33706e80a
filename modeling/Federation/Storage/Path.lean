import Federation.Storage.Folder

/-!
# Paths as text

A path is written as names with slashes between them.  Empty names and single dots stay where they
are, two dots go back to the folder above.

**Walking.**  A path is walked name by name, and every name of it must start from a folder that is
there: `Folder.locate?` gives the place a path leads to, whether something stands there or not.  So
`a/../b` leads nowhere unless `a` is a folder.  The working directory, the folders above it and the
root are always there.

**Limits.**  A name that is too long leads nowhere, and neither does a path that is.

**Reading and writing.**  `Folder.textAt?` and `Folder.withText?` work on files whose path is
given as text.  A path that ends in a slash never leads to a file.

**Making.**  `Folder.make` makes the missing folders on a path one after the other, and what it has
made stays when it cannot go on.
-/

namespace Federation

namespace Path

/-- The name that stands for the root at the beginning of a path. -/
def root : String := "/"

/-- The name that goes back. -/
def above : String := ".."

/-- The most bytes of a name. -/
def longestName : Nat := 255

/-- The most bytes of a path. -/
def longestPath : Nat := 4095

/-- Goes on from a place, given by its names with the last one first, by one written name. -/
def follow (before : List String) (name : String) : List String :=
  if name = "." then before
  else if name = above then
    match before with
    | [] => [above]
    | last :: rest =>
      if last = above then above :: before else if last = root then before else rest
  else name :: before

/-- Where a path starts, last name first. -/
def start (text : String) : List String :=
  if text.startsWith "/" then [root] else []

/-- The written names of a path. -/
def steps (text : String) : List String :=
  (text.splitOn "/").filter fun name => !name.isEmpty

/-- The names of the place that a path leads to. -/
def names (text : String) : List String :=
  ((steps text).foldl follow (start text)).reverse

/-- Whether a path can only lead to a folder. -/
def isFolderPath (text : String) : Bool :=
  text.isEmpty || text.endsWith "/"

/-- Whether names stand for the working directory, a folder above it or the root. -/
def isGiven (names : List String) : Bool :=
  names.all fun name => name == root || name == above

end Path

namespace Folder

/-- The folder at a place. -/
def folderAt? (folder : Folder) (names : List String) : Option Folder :=
  match folder.find? names with
  | some node => node.entries?
  | none => if Path.isGiven names then some [] else none

/-- Walks on from a place, given with its last name first. -/
def walk? (folder : Folder) (before : List String) : List String → Option (List String)
  | [] => some before.reverse
  | name :: rest =>
    if (folder.folderAt? before.reverse).isSome && name.utf8ByteSize ≤ Path.longestName then
      walk? folder (Path.follow before name) rest
    else none

/-- The names of the place that a path leads to, if it can be walked. -/
def locate? (folder : Folder) (path : String) : Option (List String) :=
  if path.isEmpty || Path.longestPath < path.utf8ByteSize then none
  else folder.walk? (Path.start path) (Path.steps path)

/-- Whether something stands at a path. -/
def hasPath (folder : Folder) (path : String) : Bool :=
  match folder.locate? path with
  | none => false
  | some names =>
    (folder.folderAt? names).isSome ||
      ((folder.find? names).isSome && !Path.isFolderPath path)

/-- The text of the file at a path. -/
def textAt? (folder : Folder) (path : String) : Option String :=
  if Path.isFolderPath path then none
  else ((folder.locate? path).bind folder.find?).bind FileNode.text?

/-- The folder with a file at a path, unless a folder is there or none can hold it. -/
def withText? (folder : Folder) (path text : String) : Option Folder := do
  let names ← folder.locate? path
  if Path.isFolderPath path || (folder.folderAt? names).isSome then none
  else (← folder.open? names.dropLast).put? (.file text) names

/-- Makes the missing folders on the way from a place, given with its last name first, and says
whether the way is free. -/
def makeFrom (folder : Folder) (before : List String) : List String → Folder × Bool
  | [] => (folder, true)
  | name :: rest =>
    let place := Path.follow before name
    if Path.longestName < name.utf8ByteSize then (folder, false)
    else
      match folder.open? place.reverse with
      | some made => makeFrom made place rest
      | none => (folder, false)

/-- Makes the missing folders on a path and says whether it now leads to a folder. -/
def make (folder : Folder) (path : String) : Folder × Bool :=
  if Path.longestPath < path.utf8ByteSize then (folder, false)
  else folder.makeFrom (Path.start path) (Path.steps path)

end Folder

end Federation
