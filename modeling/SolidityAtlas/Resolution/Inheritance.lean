import SolidityAtlas.Settings
import SolidityAtlas.Workspace.Basic

/-! Inheritance between contracts, linked by name. Of contracts of one name the last one counts, at
the place of the first. Chains go up from a contract to its bases, `derived` goes down to everything
that inherits from a name; both end on cyclic inheritance.
-/

namespace SolidityAtlas

/-- The contracts of a workspace by name, and how far chains go up. -/
structure InheritanceGraph where
  contracts : KeyedList ContractDecl.name
  maxDepth : Bound

/-- A contract that implements a method of an interface or base contract. -/
structure Implementation where
  /-- The contract whose body implements the method. -/
  contract : String
  contractKind : ContractKind
  function : FunctionDecl
  path : String
  /-- Whether the body belongs to a base of the implementing contract. -/
  isInherited : Bool
  chain : List String
  /-- The contract that has the implementation. -/
  implementer : String
  deriving DecidableEq, Repr

namespace InheritanceGraph

/-- The graph without contracts, which has no chains to bound. -/
def empty : InheritanceGraph :=
  { contracts := .empty, maxDepth := .int 0 }

/-- The graph of a workspace. -/
def ofWorkspace (settings : Settings) (workspace : Workspace) : Outcome InheritanceGraph :=
  match workspace.contracts with
  | [] => .ok .empty
  | contracts =>
      settings.maxChainDepth.map fun depth =>
        { contracts := .ofList contracts, maxDepth := depth }

/-- The contract that counts for a name. -/
def contract? (graph : InheritanceGraph) (name : String) : Option ContractDecl :=
  graph.contracts.get? name

/-- The names of the bases of a name, in order; unknown names have none. -/
def bases (graph : InheritanceGraph) (name : String) : List String :=
  match graph.contract? name with
  | some contract => contract.bases
  | none => []

/-- Appends the names that a list does not have yet. -/
def appendNew (names more : List String) : List String :=
  more.foldl (fun names name => if names.contains name then names else names ++ [name]) names

/-- The chain of a name that is reached at a depth over the names in `path`: the name and then the
chains of its bases, without repetition. A path never repeats a name, so the fuel, one more than the
number of contracts, is never used up.
-/
def chainFrom (graph : InheritanceGraph) : Nat → List String → Nat → String → List String
  | 0, _, _, _ => []
  | fuel + 1, path, depth, name =>
      if path.contains name then []
      else if graph.maxDepth.isExceededBy depth then []
      else
        (graph.bases name).foldl
          (fun chain base =>
            appendNew chain (chainFrom graph fuel (name :: path) (depth + 1) base))
          [name]

/-- The chain of a name: the name and its ancestors, bases in order and depth first. An unknown name
is its own chain.
-/
def chain (graph : InheritanceGraph) (name : String) : List String :=
  if graph.contracts.contains name then
    chainFrom graph (graph.contracts.items.length + 1) [] 0 name
  else [name]

/-- The contracts that name a base directly, in the order of contracts. -/
def inheritors (graph : InheritanceGraph) (base : String) : List String :=
  (graph.contracts.items.filter fun contract => contract.bases.contains base).map (·.name)

/-- Adds to `found` what inherits from a name, depth first. Every step down adds a contract, so the
fuel, one more than the number of contracts, is never used up.
-/
def derivedFrom (graph : InheritanceGraph) : Nat → List String → String → List String
  | 0, found, _ => found
  | fuel + 1, found, name =>
      (graph.inheritors name).foldl
        (fun found inheritor =>
          if found.contains inheritor then found
          else derivedFrom graph fuel (found ++ [inheritor]) inheritor)
        found

/-- The contracts that inherit from a name, directly or not, in the order of discovery. The name
itself is among them only on a cycle.
-/
def derived (graph : InheritanceGraph) (name : String) : List String :=
  derivedFrom graph (graph.contracts.items.length + 1) [] name

/-- The contract of a name, unless it is an interface. -/
def concrete? (graph : InheritanceGraph) (name : String) : Option ContractDecl :=
  (graph.contract? name).filter fun contract => !contract.isInterface

/-- The first function of a contract that implements a method. -/
def implementing? (contract : ContractDecl) (method : String) : Option FunctionDecl :=
  contract.functions.find? fun function => function.name = method && function.isImplemented

/-- The implementation of a method that a contract has or inherits: the first one in its chain
outside interfaces.
-/
def implementationIn (graph : InheritanceGraph) (implementer method : String)
    : Option Implementation :=
  let chain := graph.chain implementer
  chain.findSome? fun name => do
    let contract ← graph.concrete? name
    let function ← implementing? contract method
    return {
      contract := name
      contractKind := contract.kind
      function := function
      path := contract.path
      isInherited := name ≠ implementer
      chain := chain
      implementer := implementer
    }

/-- The implementations of a method of an interface or base contract, one for each contract below it
that has or inherits a body.
-/
def implementations (graph : InheritanceGraph) (base method : String) : List Implementation :=
  (graph.derived base).filterMap fun name =>
    (graph.concrete? name).bind fun _ => graph.implementationIn name method

/-- The bodies that contracts themselves give a method, of a number of parameters if one is
asked for.
-/
def withMethod (graph : InheritanceGraph) (method : String) (parameters : Option Int)
    : List Implementation :=
  (graph.contracts.items.filter fun contract => !contract.isInterface).flatMap fun contract =>
    (contract.functions.filter fun function =>
      function.name = method && parameters.all (· == function.parameters.length) &&
        function.isImplemented).map fun function =>
        { contract := contract.name
          contractKind := contract.kind
          function := function
          path := contract.path
          isInherited := false
          chain := graph.chain contract.name
          implementer := contract.name }

/-- The interface of a name. -/
def interface? (graph : InheritanceGraph) (name : String) : Option ContractDecl :=
  (graph.contract? name).filter (·.isInterface)

/-- All interfaces. -/
def interfaces (graph : InheritanceGraph) : List ContractDecl :=
  graph.contracts.items.filter (·.isInterface)

/-- All contracts but interfaces. -/
def concretes (graph : InheritanceGraph) : List ContractDecl :=
  graph.contracts.items.filter fun contract => !contract.isInterface

/-- A description of the graph, line by line: contracts with their bases, bases with what inherits
from them, and the chains.
-/
def describe (graph : InheritanceGraph) : List String :=
  let contracts := graph.contracts.items
  let bases := distinct (contracts.flatMap (·.bases))
  ["=== Contract Map ==="] ++
    contracts.map (fun contract =>
      contract.name ++ " (" ++ contract.kind.text ++ "): inherits [" ++
        ", ".intercalate contract.bases ++ "]") ++
    ["=== Inherited By ==="] ++
    bases.map (fun base =>
      base ++ ": inherited by [" ++ ", ".intercalate (graph.inheritors base) ++ "]") ++
    ["=== Inheritance Chains ==="] ++
    contracts.map fun contract =>
      contract.name ++ ": " ++ " -> ".intercalate (graph.chain contract.name)

end InheritanceGraph

end SolidityAtlas
