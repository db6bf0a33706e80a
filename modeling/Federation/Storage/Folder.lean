import Federation.Members

/-!
# Folders and files

A folder holds files and further folders under their names.  A path is the list of names that leads
from a folder to one of its descendants.

**Looking.**  `Folder.find?` follows a path; the empty path leads to the folder itself.

**Changing.**  `Folder.put?` sets what stands at a path whose parent is a folder, `Folder.open?` makes
every missing folder on a path.  Neither makes a folder out of a file.
-/

namespace Federation

/-- A file or a folder. -/
inductive FileNode where
  | file (text : String)
  | folder (entries : List (String × FileNode))

/-- What a folder holds. -/
abbrev Folder := Members FileNode

/-- The text, if the node is a file. -/
def FileNode.text? : FileNode → Option String
  | file text => some text
  | folder _ => none

/-- The entries, if the node is a folder. -/
def FileNode.entries? : FileNode → Option Folder
  | file _ => none
  | folder entries => some entries

namespace Folder

/-- What stands at a path. -/
def find? (folder : Folder) : List String → Option FileNode
  | [] => some (.folder folder)
  | [name] => folder.get? name
  | name :: rest =>
    match folder.get? name with
    | some (.folder entries) => find? entries rest
    | _ => none

/-- The folder with a node at a path, unless the parent is no folder. -/
def put? (folder : Folder) (node : FileNode) : List String → Option Folder
  | [] => none
  | [name] => some (folder.insert name node)
  | name :: rest =>
    match folder.get? name with
    | some (.folder entries) =>
      (put? entries node rest).map fun changed => folder.insert name (.folder changed)
    | _ => none

/-- The folder with folders all along a path, unless there is a file in the way. -/
def open? (folder : Folder) : List String → Option Folder
  | [] => some folder
  | name :: rest =>
    match folder.get? name with
    | none => (open? [] rest).map fun made => folder.insert name (.folder made)
    | some (.folder entries) =>
      (open? entries rest).map fun made => folder.insert name (.folder made)
    | some (.file _) => none

end Folder

end Federation
