import SolidityAtlas.Vocabulary.Patterns
import SolidityAtlas.Workspace.Basic

/-! State variables of contracts: which ones a function mentions, and which declaration a name
stands for. A mention is any whole word that is the variable's name; local variables of the same
name are not told apart.
-/

namespace SolidityAtlas

/-- The state variables of a contract that a function mentions, by name, in the order of first
mention.
-/
def mentionedVariables (function : FunctionDecl) (contract : ContractDecl) : List String :=
  let names := contract.stateVariables.map (·.name)
  distinct <|
    ((Vocabulary.identifier.findAll function.source.toList).map (·.group 1)).filter
      fun name => names.contains name

/-- The first state variable of a name among contracts. -/
def variableAmong (contracts : List ContractDecl) (name : String) : Option StateVariable :=
  contracts.findSome? fun contract =>
    contract.stateVariables.find? fun candidate => candidate.name = name

/-- The state variable of a name. Contracts called `hint` come first, if a hint is given, and then
all contracts; both follow the search order from the current file.
-/
def Workspace.resolveVariable (workspace : Workspace) (name : String) (hint : Option String)
    (current : Option String) : Option StateVariable :=
  let contracts := (workspace.filesFrom current).flatMap (·.contracts)
  let hinted :=
    match hint.filter (· ≠ "") with
    | some owner => variableAmong (contracts.filter fun contract => contract.name = owner) name
    | none => none
  hinted.or (variableAmong contracts name)

/-- All state variables of a name, in the order of files. -/
def Workspace.variablesNamed (workspace : Workspace) (name : String) : List StateVariable :=
  workspace.contracts.flatMap fun contract =>
    contract.stateVariables.filter fun candidate => candidate.name = name

/-- The state variables of the first contract of a name. -/
def Workspace.variablesOfContract (workspace : Workspace) (name : String) : List StateVariable :=
  match workspace.contracts.find? fun contract => contract.name = name with
  | some contract => contract.stateVariables
  | none => []

/-- The contract that declares a function: the first one of the function's file with a function of
its name on its first line.
-/
def Workspace.contractOf (workspace : Workspace) (function : FunctionDecl)
    : Option ContractDecl := do
  let file ← workspace.file? function.path
  file.contracts.find? fun contract =>
    contract.functions.any fun candidate =>
      candidate.name = function.name &&
        candidate.location.first.line == function.location.first.line

end SolidityAtlas
