import Federation.Storage.Folder

/-!
# Changes of a folder

What has to be done to make one folder out of another.  `Folder.changes` lists it in an order in
which it can be done: a folder is made before anything is put into it.
-/

namespace Federation

/-- One change, at a path. -/
inductive Change where
  | makeFolder (path : List String)
  | write (path : List String) (text : String)
  | remove (path : List String)

namespace Folder

/-- The entries that are gone. -/
def removals (path : List String) (before after : Folder) : List Change :=
  (before.keys.filter fun name => !after.has name).map fun name => .remove (path ++ [name])

mutual

/-- What makes a node out of what stood in its place. -/
def changesOfNode (path : List String) (before : Option FileNode) : FileNode → List Change
  | .file text =>
    if before.bind FileNode.text? = some text then [] else [.write path text]
  | .folder entries =>
    let old := (before.bind FileNode.entries?).getD []
    (if (before.bind FileNode.entries?).isSome then [] else [Change.makeFolder path]) ++
      removals path old entries ++ changesOfEntries path old entries

/-- What makes the entries of a folder. -/
def changesOfEntries (path : List String) (before : Folder) :
    List (String × FileNode) → List Change
  | [] => []
  | (name, node) :: rest =>
    changesOfNode (path ++ [name]) (before.get? name) node ++ changesOfEntries path before rest

end

/-- What makes one folder out of another. -/
def changes (before after : Folder) : List Change :=
  removals [] before after ++ changesOfEntries [] before after

end Folder

end Federation
