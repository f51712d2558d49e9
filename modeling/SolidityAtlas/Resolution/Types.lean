import SolidityAtlas.Resolution.TypeCandidates
import SolidityAtlas.Workspace.Basic

/-! Types of the workspace by name. A qualified name is looked for in the contracts of that name
only; a bare name in all contracts of a file and then at file level. Files are searched in order,
and the first definition decides.
-/

namespace SolidityAtlas

/-- The definition of a type. -/
inductive TypeDefinition where
  | struct (definition : StructDecl)
  | enum (definition : EnumDecl)
  deriving DecidableEq, Repr

namespace TypeDefinition

/-- The name in the definition. -/
def name : TypeDefinition → String
  | .struct definition => definition.name
  | .enum definition => definition.name

/-- The text of the definition. -/
def source : TypeDefinition → String
  | .struct definition => definition.source
  | .enum definition => definition.source

/-- The span of the definition. -/
def location : TypeDefinition → Location
  | .struct definition => definition.location
  | .enum definition => definition.location

/-- The file of the definition. -/
def path : TypeDefinition → String
  | .struct definition => definition.path
  | .enum definition => definition.path

/-- The contract of the definition, none at file level. -/
def contract : TypeDefinition → Option String
  | .struct definition => definition.contract
  | .enum definition => definition.contract

end TypeDefinition

/-- What a reference to a type refers to. -/
inductive ReferenceKind where
  | struct
  | enum
  | contract
  | interface
  | library
  deriving DecidableEq, Repr

/-- A type that is referred to, under the name it is shown by. -/
structure TypeReference where
  name : String
  kind : ReferenceKind
  definition : Option TypeDefinition
  deriving DecidableEq, Repr

/-- A reference to a struct. -/
def TypeReference.toStruct (name : String) (definition : StructDecl) : TypeReference :=
  { name := name, kind := .struct, definition := some (.struct definition) }

/-- A reference to an enum. -/
def TypeReference.toEnum (name : String) (definition : EnumDecl) : TypeReference :=
  { name := name, kind := .enum, definition := some (.enum definition) }

/-- A type name as it is searched for: its contract, if it is qualified, and its local name. -/
structure TypeQuery where
  contract : Option String
  name : String
  deriving DecidableEq, Repr

/-- The query for a type name; an empty qualifier is none. -/
def TypeQuery.ofName (name : String) : TypeQuery :=
  let (contract, name) := Text.qualifierAndName name
  { contract := contract.filter (· ≠ ""), name := name }

/-- The first struct of a name, or else the first enum, shown under a given name. -/
def typeAmong (shown name : String) (structs : List StructDecl) (enums : List EnumDecl)
    : Option TypeReference :=
  ((structs.find? fun struct => struct.name = name).map (TypeReference.toStruct shown)).or
    ((enums.find? fun enum => enum.name = name).map (TypeReference.toEnum shown))

/-- The type that a file defines for a query, if it defines one. -/
def FileOutline.findType (file : FileOutline) (query : TypeQuery) : Option TypeReference :=
  match query.contract with
  | some qualifier =>
      (file.contracts.filter fun contract => contract.name = qualifier).findSome? fun contract =>
        typeAmong (contract.name ++ "." ++ query.name) query.name contract.structs contract.enums
  | none =>
      (file.contracts.findSome? fun contract =>
        typeAmong query.name query.name contract.structs contract.enums).or
        (typeAmong query.name query.name file.structs file.enums)

/-- The first type among files for a name. -/
def resolveTypeIn (files : List FileOutline) (name : String) : Option TypeReference :=
  files.findSome? (·.findType (.ofName name))

/-- The type of a name in a workspace. -/
def Workspace.resolveType (workspace : Workspace) (name : String) : Option TypeReference :=
  resolveTypeIn (workspace.filesFrom none) name

/-- The types of a name, at most one for each file. -/
def Workspace.typesNamed (workspace : Workspace) (name : String) : List TypeReference :=
  (workspace.filesFrom none).filterMap (·.findType (.ofName name))

/-- The types that a function refers to, the current file searched first. -/
def Workspace.typesOf (workspace : Workspace) (settings : Settings) (function : FunctionDecl)
    (current : Option String) : Outcome (List TypeReference) := do
  return (← candidateTypes settings function).filterMap
    (resolveTypeIn (workspace.filesFrom current))

end SolidityAtlas
