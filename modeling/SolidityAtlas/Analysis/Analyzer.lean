import SolidityAtlas.Analysis.Lookup
import SolidityAtlas.Resolution.Inheritance
import SolidityAtlas.Resolution.VariableTypes

/-! An analyzer works on one workspace and remembers what it found: lookups by request, and the
inheritance graph from the first time it is asked for. What it remembers never goes stale, as the
workspace it works on stays the same.
-/

namespace SolidityAtlas

/-- A workspace and what is remembered about it. -/
structure Analyzer where
  workspace : Workspace
  lookups : OrderedMap LookupRequest Finding
  graph : Option InheritanceGraph

/-- An answer to a lookup, and the request it is remembered under if it is remembered. -/
structure LookupAnswer where
  result : Finding
  remembered : Option LookupRequest

namespace Analyzer

/-- An analyzer that remembers nothing yet. -/
def ofWorkspace (workspace : Workspace) : Analyzer :=
  { workspace := workspace, lookups := .empty, graph := none }

/-- Looks a symbol up, or remembers the answer of an equal request. -/
def lookup (analyzer : Analyzer) (request : LookupRequest) : LookupAnswer × Analyzer :=
  match analyzer.lookups.value? request with
  | some result => ({ result := result, remembered := some request }, analyzer)
  | none =>
      let result := analyzer.workspace.lookup request
      ({ result := result, remembered := some request },
        { analyzer with lookups := analyzer.lookups.insert request result })

/-- Looks up the type of a variable of a function, in the contract of the function first. -/
def lookupVariable (analyzer : Analyzer) (name : String) (function : FunctionDecl)
    : LookupAnswer × Analyzer :=
  match (variableTypes function.source).value? name with
  | none => ({ result := .notFound name .type, remembered := none }, analyzer)
  | some typeName =>
      analyzer.lookup { kind := .type, name := typeName, contract := function.contract }

/-- The inheritance graph, built with the settings of the first time that it can be built with. -/
def inheritance (analyzer : Analyzer) (settings : Settings)
    : Outcome (InheritanceGraph × Analyzer) :=
  match analyzer.graph with
  | some graph => .ok (graph, analyzer)
  | none => do
      let graph ← InheritanceGraph.ofWorkspace settings analyzer.workspace
      return (graph, { analyzer with graph := some graph })

end Analyzer

end SolidityAtlas
