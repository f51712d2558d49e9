import SolidityAtlas.Workspace.Basic
import SolidityAtlas.Outline.Extract

/-! Building a workspace from source texts and keeping it up to date when one of them changes. The
syntax trees come from a parser that is given; a file that it refuses, or whose tree is no source
unit, is a parse failure of that file and leaves the workspace as it was.
-/

namespace SolidityAtlas

/-- The text of a file. -/
structure SourceText where
  path : String
  text : String
  deriving DecidableEq, Repr

/-- A parser gives the syntax tree of a source text, or says why there is none. -/
abbrev Parser : Type :=
  SourceText → Except String Json

/-- Source texts by path, in the order in which they came in. -/
abbrev Sources : Type :=
  KeyedList SourceText.path

/-- The syntax tree and the outline of a source text. -/
def SourceText.parse (source : SourceText) (parser : Parser) : Outcome (Json × FileOutline) :=
  match parser source with
  | .error message => .error (.parse source.path message)
  | .ok tree => do
      let file ← outlineOf tree source.text source.path
      return (tree, file)

namespace Workspace

/-- Parses a source text and puts its file into a workspace. -/
def reindex (parser : Parser) (workspace : Workspace) (source : SourceText)
    : Outcome Workspace := do
  let (tree, file) ← source.parse parser
  return workspace.insert file (some tree)

/-- The workspace of source texts, parsed in order. -/
def build (parser : Parser) (sources : Sources) : Outcome Workspace := do
  let parsed ← sources.items.mapM fun source => source.parse parser
  return .ofFiles (parsed.map (·.2)) (parsed.map fun (tree, file) => (file.path, tree))

end Workspace

end SolidityAtlas
