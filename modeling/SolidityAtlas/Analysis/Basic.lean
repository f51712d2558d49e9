import SolidityAtlas.Resolution.Types
import SolidityAtlas.Resolution.Calls
import SolidityAtlas.Resolution.StateVariables
import SolidityAtlas.SyntaxTree.Span

/-! Analysis of a function: the types, calls and state variables it depends on. The function is
given itself or by a position in a file.
-/

namespace SolidityAtlas

/-- What a function depends on. -/
structure Analysis where
  function : FunctionDecl
  contract : Option String
  types : List TypeReference
  calls : List CallSite
  stateVariables : List StateVariable
  deriving DecidableEq, Repr

/-- The tightest of the functions whose span holds a position; of equally tight ones the first. -/
def tightestFunction (line column : Int) (best : Option FunctionDecl) (function : FunctionDecl)
    : Option FunctionDecl :=
  if function.location.contains line column then
    match best with
    | none => some function
    | some other => if function.location.tighter other.location then some function else best
  else best

namespace Workspace

/-- The innermost function around a position, by the spans of the functions in an outline. -/
def functionBySpan (file : FileOutline) (line column : Int) : Option FunctionDecl :=
  file.allFunctions.foldl (tightestFunction line column) none

/-- The innermost function around a position, by the syntax tree of its file: the first function of
the outline with the span of the innermost node.
-/
def functionByTree (file : FileOutline) (tree : Json) (line column : Int)
    : Outcome (Option FunctionDecl) := do
  match ← innermostFunction tree line column with
  | none => return none
  | some (_, span) => return file.allFunctions.find? fun function => function.location = span

/-- The innermost function around a position; lines count from 1. The syntax tree decides where the
workspace has one.
-/
def functionAt (workspace : Workspace) (path : String) (line column : Int)
    : Outcome (Option FunctionDecl) :=
  match workspace.file? path with
  | none => .ok none
  | some file =>
      match workspace.tree? path with
      | some tree => functionByTree file tree line column
      | none => .ok (functionBySpan file line column)

/-- The last declaration of a state variable in a contract. -/
def declaredVariable? (contract : ContractDecl) (name : String) : Option StateVariable :=
  contract.stateVariables.reverse.find? fun candidate => candidate.name = name

/-- The state variables of its own contract that a function mentions. -/
def variablesOf (workspace : Workspace) (function : FunctionDecl) : List StateVariable :=
  match workspace.contractOf function with
  | some contract => (mentionedVariables function contract).filterMap (declaredVariable? contract)
  | none => []

/-- The analysis of a function, seen from a file or else from its own. -/
def analysisOf (workspace : Workspace) (settings : Settings) (function : FunctionDecl)
    (path : Option String) : Outcome Analysis := do
  let current := (path.filter (· ≠ "")).getD function.path
  return {
    function := function
    contract :=
      match workspace.contractOf function with
      | some contract => some contract.name
      | none => function.contract
    types := ← workspace.typesOf settings function (some current)
    calls := ← workspace.callsOf settings function (some current)
    stateVariables := workspace.variablesOf function
  }

/-- The analysis of the function around a position; lines count from 0. -/
def analysisAt (workspace : Workspace) (settings : Settings) (path : String) (line column : Int)
    : Outcome Analysis := do
  if !workspace.contains path then
    .error (.notIndexed path)
  else
    match ← workspace.functionAt path (line + 1) column with
    | none => .error (.notInFunction path line column)
    | some function => workspace.analysisOf settings function (some path)

end Workspace

end SolidityAtlas
