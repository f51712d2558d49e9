import SolidityAtlas.Source.Path
import SolidityAtlas.Text.Utf8
import SolidityAtlas.Json.Reader
import SolidityAtlas.Workspace.Build

/-! Workspaces that lie in a folder. Every source file, at any depth, has its syntax tree as JSON in
a file beside it. Sources are taken in the order of their paths, and the first one whose tree is
missing or unreadable decides the failure of the whole.
-/

namespace SolidityAtlas

/-- What stands in a folder under a name. -/
inductive FolderEntry where
  | file (bytes : List UInt8)
  | folder
  deriving DecidableEq, Repr

/-- A folder: the path it is reached by, and what lies in it at any depth, each with the names on
the way there. A folder that is on the way to something need not be listed itself.
-/
structure Folder where
  path : Path
  entries : List (List String × FolderEntry)

namespace Folder

/-- What stands in a folder at the end of a way. -/
def entry? (folder : Folder) (names : List String) : Option FolderEntry :=
  match folder.entries.lookup names with
  | some entry => some entry
  | none =>
      if folder.entries.any fun entry => names.isPrefixOf entry.1 then some .folder else none

/-- Whether a way ends at a folder. The empty way stays where it is. -/
def leadsToFolder (folder : Folder) (names : List String) : Bool :=
  names.isEmpty || folder.entry? names == some .folder

/-- One step on a way into a folder, which is given by the names so far: `..` goes back, any other
name has to be that of a folder.
-/
def step (folder : Folder) (names : List String) (part : String) : Option (List String) :=
  if part = ".." then
    if names.isEmpty then none else some names.dropLast
  else
    let further := names ++ [part]
    if folder.leadsToFolder further then some further else none

/-- The folder at a path that starts in another folder. -/
def inside? (folder : Folder) (path : Path) : Option Folder :=
  if path.slashes ≠ 0 then none
  else
    (path.parts.foldlM folder.step []).map fun way =>
      { path := folder.path.join path
        entries := folder.entries.filterMap fun (names, entry) =>
          if way.isPrefixOf names then some (names.drop way.length, entry) else none }

/-- The path of what lies at the end of a way. -/
def pathOf (folder : Folder) (names : List String) : Path :=
  folder.path.join { slashes := 0, parts := names }

/-- The ending of the names of source files. -/
def sourceSuffix : String :=
  ".sol"

/-- What the name of a source file is followed by in the name of the file with its syntax tree. -/
def treeSuffix : String :=
  ".ast.json"

/-- The way to the syntax tree of the source at the end of a way. -/
def treeWay (names : List String) : List String :=
  names.dropLast ++ names.getLast?.toList.map (· ++ treeSuffix)

/-- The source files in the order of their paths. -/
def sources (folder : Folder) : List (List String × List UInt8) :=
  let found := folder.entries.filterMap fun (names, entry) =>
    match entry with
    | .file bytes =>
        if (names.getLast?.map Path.suffix) == some sourceSuffix then some (names, bytes) else none
    | .folder => none
  found.mergeSort fun a b => !Path.lessParts b.1 a.1

/-- The text of what stands at a path, with uniform line ends. -/
def readText (path : Path) : FolderEntry → Except String String
  | .folder => .error ("[Errno 21] Is a directory: " ++ Text.quoted path.text)
  | .file bytes =>
      match Text.decode bytes with
      | .error error => .error error.message
      | .ok text => .ok (String.ofList (Text.uniformLines text))

/-- The failure of a file whose syntax tree is not read from its text. -/
def treeFailure (path text : String) (error : Json.ReadError) : Failure :=
  match error.cause with
  | .oversizedInteger => .badNumber
  | _ => .parse path (error.message text)

/-- The syntax tree and the outline of a source file. Its text is read before its tree. -/
def parse (folder : Folder) (names : List String) (bytes : List UInt8)
    : Outcome (Json × FileOutline) := do
  let path := folder.pathOf names
  let treePath := folder.pathOf (treeWay names)
  match folder.entry? (treeWay names) with
  | none => .error (.parse path.text ("no syntax tree found at " ++ treePath.text))
  | some entry =>
      let text ← (readText path (.file bytes)).mapError (.parse path.text)
      let treeText ← (readText treePath entry).mapError (.parse path.text)
      let tree ← (Json.read treeText).mapError (treeFailure path.text treeText)
      let file ← outlineOf tree text path.text
      return (tree, file)

/-- The workspace in a folder. -/
def workspace (folder : Folder) : Outcome Workspace := do
  let parsed ← folder.sources.mapM fun (names, bytes) => folder.parse names bytes
  return .ofFiles (parsed.map (·.2)) (parsed.map fun (tree, file) => (file.path, tree))

end Folder

end SolidityAtlas
