import SolidityAtlas.Declaration.Basic
import SolidityAtlas.Json.Basic

/-! The workspace: the outlines of all files in the order in which they came in, and the syntax tree
of each file that has one. A workspace is a value, and editing it gives a new one. The order decides
between definitions of one name.
-/

namespace SolidityAtlas

/-- The files of a workspace, by path, and the known syntax trees. -/
structure Workspace where
  files : KeyedList FileOutline.path
  trees : OrderedMap String Json

namespace Workspace

/-- The workspace without files. -/
def empty : Workspace :=
  { files := .empty, trees := .empty }

instance : Inhabited Workspace := ⟨empty⟩

/-- A workspace of given files and trees; of two files with one path the last one stays, at the
place of the first.
-/
def ofFiles (files : List FileOutline) (trees : List (String × Json)) : Workspace :=
  { files := .ofList files, trees := .ofList trees }

/-- The paths of the files, in order. -/
def paths (workspace : Workspace) : List String :=
  workspace.files.keys

/-- The outline of the file at a path. -/
def file? (workspace : Workspace) (path : String) : Option FileOutline :=
  workspace.files.get? path

/-- Whether there is a file at a path. -/
def contains (workspace : Workspace) (path : String) : Bool :=
  workspace.files.contains path

/-- The syntax tree known for a path. -/
def tree? (workspace : Workspace) (path : String) : Option Json :=
  workspace.trees.value? path

/-- Adds a file or replaces it where it stands, with its tree or without one. -/
def insert (workspace : Workspace) (file : FileOutline) (tree : Option Json) : Workspace :=
  { files := workspace.files.put file
    trees :=
      match tree with
      | some tree => workspace.trees.insert file.path tree
      | none => workspace.trees.erase file.path }

/-- Takes a file and its tree away. -/
def erase (workspace : Workspace) (path : String) : Workspace :=
  { files := workspace.files.erase path, trees := workspace.trees.erase path }

/-- The files in the order in which definitions are looked for: the current file, if it is there,
and then all other files in order.
-/
def filesFrom (workspace : Workspace) (current : Option String) : List FileOutline :=
  match current with
  | none => workspace.files.items
  | some path =>
      (if path = "" then none else workspace.file? path).toList ++
        workspace.files.items.filter fun file => file.path ≠ path

/-- All contracts, file by file. -/
def contracts (workspace : Workspace) : List ContractDecl :=
  workspace.files.items.flatMap (·.contracts)

end Workspace

end SolidityAtlas
