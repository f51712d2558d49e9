import SolidityAtlas.Source.Location
import SolidityAtlas.Text.Basic

/-! What Solidity source declares: functions, structs, enums, state variables and the contracts that
hold them, and the outline of a file, which lists all of them. Every declaration knows its source
text, its span, the file it stands in and, if it has one, its contract.
-/

namespace SolidityAtlas

/-- A parameter or return value of a function. -/
structure Parameter where
  name : String
  typeName : String
  /-- The data location, such as `memory`. -/
  storage : Option String
  deriving DecidableEq, Repr

/-- A function, constructor, or receive or fallback function. -/
structure FunctionDecl where
  name : String
  visibility : String
  mutability : Option String
  parameters : List Parameter
  returns : List Parameter
  modifiers : List String
  /-- The text of the body, empty for a declaration without one. -/
  body : String
  source : String
  location : Location
  path : String
  /-- The contract that declares it, none at file level. -/
  contract : Option String
  deriving DecidableEq, Repr

/-- A member of a struct. -/
structure StructMember where
  name : String
  typeName : String
  deriving DecidableEq, Repr

/-- A struct. -/
structure StructDecl where
  name : String
  members : List StructMember
  source : String
  location : Location
  path : String
  contract : Option String
  deriving DecidableEq, Repr

/-- An enum. -/
structure EnumDecl where
  name : String
  members : List String
  source : String
  location : Location
  path : String
  contract : Option String
  deriving DecidableEq, Repr

/-- A state variable of a contract. -/
structure StateVariable where
  name : String
  typeName : String
  visibility : String
  source : String
  location : Location
  path : String
  contract : String
  deriving DecidableEq, Repr

/-- An import directive. -/
structure ImportDirective where
  path : String
  /-- The file it names, where its path is relative. -/
  target : Option String
  symbols : List String
  deriving DecidableEq, Repr

/-- The sorts of contract. -/
inductive ContractKind where
  | contract
  | interface
  | library
  | abstract
  deriving DecidableEq, Repr

/-- A contract with what it declares. Its bases are kept by name. -/
structure ContractDecl where
  name : String
  kind : ContractKind
  functions : List FunctionDecl
  structs : List StructDecl
  enums : List EnumDecl
  stateVariables : List StateVariable
  bases : List String
  location : Location
  path : String
  deriving DecidableEq, Repr

/-- What one file declares, in contracts and at file level. -/
structure FileOutline where
  path : String
  contracts : List ContractDecl
  imports : List ImportDirective
  pragmas : List String
  structs : List StructDecl
  enums : List EnumDecl
  functions : List FunctionDecl
  deriving DecidableEq, Repr

/-- A function is implemented when its body is more than white space. -/
def FunctionDecl.isImplemented (function : FunctionDecl) : Bool :=
  !function.body.toList.all Text.isSpace

/-- All functions of a file: those of its contracts, contract by contract, and then those at file
level.
-/
def FileOutline.allFunctions (file : FileOutline) : List FunctionDecl :=
  file.contracts.flatMap (·.functions) ++ file.functions

/-- All state variables of a file, contract by contract. -/
def FileOutline.stateVariables (file : FileOutline) : List StateVariable :=
  file.contracts.flatMap (·.stateVariables)

/-- Whether a contract is an interface, which declares functions but implements none. -/
def ContractDecl.isInterface (contract : ContractDecl) : Bool :=
  contract.kind == .interface

/-- The sorts of contract and the words for them. -/
def ContractKind.words : List (String × ContractKind) :=
  [("contract", .contract), ("interface", .interface), ("library", .library),
   ("abstract", .abstract)]

/-- The word for a sort of contract. -/
def ContractKind.text : ContractKind → String
  | .contract => "contract"
  | .interface => "interface"
  | .library => "library"
  | .abstract => "abstract"

end SolidityAtlas
