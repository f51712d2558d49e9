import SolidityAtlas.Outline.TypeName
import SolidityAtlas.Outline.Excerpt
import SolidityAtlas.Source.Path

/-! The outline of a file, taken from its syntax tree. Declarations are built from the inside out,
so a tree with several faults is refused for the innermost of the first declaration that has one.
Properties that count as nothing are as good as missing ones.
-/

namespace SolidityAtlas

/-- The items that a property lists. A string lists its characters and an object the names of its
properties; numbers and truth values list nothing that could be used.
-/
def listed (value : Json) : Outcome (List Json) :=
  if value.isNothing then .ok []
  else
    match value with
    | .arr items => .ok items
    | .str text => .ok (text.toList.map fun c => .str (String.ofList [c]))
    | .obj fields => .ok (fields.map fun field => .str field.1)
    | _ => .error .unusable

/-- A property of a value that must be an object; a missing one is null. -/
def property (value : Json) (name : String) : Outcome Json :=
  if value.isObject then .ok (value.field name) else .error .noProperties

/-- A property that is replaced where it counts as nothing. -/
def propertyOr (value : Json) (name replacement : String) : Outcome Json := do
  return (← property value name).orElse (.str replacement)

/-- A property that is replaced only where it is missing. -/
def propertyIfPresent (value : Json) (name : String) : Outcome Json :=
  if value.isObject then .ok ((value.field? name).getD (.str "")) else .error .noProperties

/-- A field of a record under construction, checked like the same field of a given record. -/
def checkedField {α : Type} (name : String) (reader : Reader α) (value : Json) : Checked α :=
  Checked.inside name (reader value)

/-- The strings in a list of values. -/
def checkedStrings (name : String) (values : List Json) : Checked (List String) :=
  Checked.inside name (Checked.items Reader.string 0 values)

/-- The span of a declaration, the start of the file where its node has none. -/
def declaredAt (node : Json) : Outcome Location := do
  return (← locationOf node).getD .origin

/-- A parameter or return value. -/
def extractParameter (node : Json) : Outcome Parameter := do
  let name ← propertyOr node "name" ""
  let typeName ← property node "typeName"
  let storage ← property node "storageLocation"
  Checked.outcome .parameter
    (Parameter.mk
      <$> checkedField "name" Reader.string name
      <*> checkedField "type_name" Reader.string (typeText typeName)
      <*> checkedField "storage_location" (Reader.optional Reader.string) storage)

/-- The parameters in a property. -/
def extractParameters (node : Json) (name : String) : Outcome (List Parameter) := do
  (← listed (node.field name)).mapM extractParameter

/-- The name of a function; constructors and the receive and fallback functions are marked by a
property of their own.
-/
def functionName (node : Json) : Json :=
  if !(node.field "isConstructor").isNothing then .str "constructor"
  else if !(node.field "isReceiveEther").isNothing then .str "receive"
  else if !(node.field "isFallback").isNothing then .str "fallback"
  else (node.field "name").orElse (.str "")

/-- A function of a contract, or of none. -/
def extractFunction (source path : String) (contract node : Json) : Outcome FunctionDecl := do
  let parameters ← extractParameters node "parameters"
  let returns ← extractParameters node "returnParameters"
  let modifiers ← (← listed (node.field "modifiers")).mapM (propertyIfPresent · "name")
  let body ←
    if (node.field "body").isObject then excerpt source (node.field "body") else pure ""
  let text ← excerpt source node
  let location ← declaredAt node
  Checked.outcome .function
    (FunctionDecl.mk
      <$> checkedField "name" Reader.string (functionName node)
      <*> checkedField "visibility" Reader.string
        ((node.field "visibility").orElse (.str "default"))
      <*> checkedField "state_mutability" (Reader.optional Reader.string)
        (node.field "stateMutability")
      <*> pure parameters
      <*> pure returns
      <*> checkedStrings "modifiers" modifiers
      <*> pure body
      <*> pure text
      <*> pure location
      <*> pure path
      <*> checkedField "contract_name" (Reader.optional Reader.string) contract)

/-- A member of a struct. -/
def extractMember (node : Json) : Outcome StructMember := do
  let name ← propertyOr node "name" ""
  let typeName ← property node "typeName"
  Checked.outcome .structMember
    (StructMember.mk
      <$> checkedField "name" Reader.string name
      <*> checkedField "type_name" Reader.string (typeText typeName))

/-- A struct of a contract, or of none. -/
def extractStruct (source path : String) (contract node : Json) : Outcome StructDecl := do
  let members ← (← listed (node.field "members")).mapM extractMember
  let text ← excerpt source node
  let location ← declaredAt node
  Checked.outcome .struct
    (StructDecl.mk
      <$> checkedField "name" Reader.string ((node.field "name").orElse (.str ""))
      <*> pure members
      <*> pure text
      <*> pure location
      <*> pure path
      <*> checkedField "contract_name" (Reader.optional Reader.string) contract)

/-- An enum of a contract, or of none. -/
def extractEnum (source path : String) (contract node : Json) : Outcome EnumDecl := do
  let members ← (← listed (node.field "members")).mapM (propertyOr · "name" "")
  let text ← excerpt source node
  let location ← declaredAt node
  Checked.outcome .enum
    (EnumDecl.mk
      <$> checkedField "name" Reader.string ((node.field "name").orElse (.str ""))
      <*> checkedStrings "members" members
      <*> pure text
      <*> pure location
      <*> pure path
      <*> checkedField "contract_name" (Reader.optional Reader.string) contract)

/-- One variable of a declaration; its text and span are those of the whole declaration. -/
def extractStateVariable (path text : String) (location : Location) (contract node : Json)
    : Outcome StateVariable := do
  let name ← propertyOr node "name" ""
  let typeName ← property node "typeName"
  let visibility ← propertyOr node "visibility" "default"
  Checked.outcome .stateVariable
    (StateVariable.mk
      <$> checkedField "name" Reader.string name
      <*> checkedField "type_name" Reader.string (typeText typeName)
      <*> checkedField "visibility" Reader.string visibility
      <*> pure text
      <*> pure location
      <*> pure path
      <*> checkedField "contract_name" Reader.string contract)

/-- The state variables of one declaration. -/
def extractStateVariables (source path : String) (contract node : Json)
    : Outcome (List StateVariable) := do
  let text ← excerpt source node
  let location ← declaredAt node
  (← listed (node.field "variables")).mapM (extractStateVariable path text location contract)

/-- The name that an import's list of symbols gives for one of them: a name, or the first of a name
and its alias.
-/
def importedSymbol? : Json → Option Json
  | .arr (name :: _) => some name
  | .str name => some (.str name)
  | _ => none

/-- An import directive of the file at `path`. -/
def extractImport (path : String) (node : Json) : Outcome ImportDirective := do
  match (node.field "path").orElse (.str "") with
  | .str imported =>
      let symbols := (← listed (node.field "symbolAliases")).filterMap importedSymbol?
      Checked.outcome .importDirective
        (ImportDirective.mk
          <$> pure imported
          <*> pure (importTarget? path imported)
          <*> checkedStrings "symbols" symbols)
  | _ => .error .noProperties

/-- A pragma as its name and value. -/
def extractPragma (node : Json) : String :=
  let part (name : String) : String := ((node.field? name).getD (.str "")).text
  Text.trimmed (part "name" ++ " " ++ part "value")

/-- What a contract declares, as far as its parts were read. -/
structure ContractParts where
  functions : List FunctionDecl := []
  structs : List StructDecl := []
  enums : List EnumDecl := []
  stateVariables : List StateVariable := []

/-- Adds one part of a contract; parts of other kinds are passed over. -/
def addContractPart (source path : String) (contract : Json) (parts : ContractParts)
    (node : Json) : Outcome ContractParts := do
  match kindOf node with
  | some "FunctionDefinition" =>
      let function ← extractFunction source path contract node
      return { parts with functions := parts.functions ++ [function] }
  | some "StructDefinition" =>
      let struct ← extractStruct source path contract node
      return { parts with structs := parts.structs ++ [struct] }
  | some "EnumDefinition" =>
      let enum ← extractEnum source path contract node
      return { parts with enums := parts.enums ++ [enum] }
  | some "StateVariableDeclaration" =>
      let declared ← extractStateVariables source path contract node
      return { parts with stateVariables := parts.stateVariables ++ declared }
  | _ => return parts

/-- The name of a base contract, if its specifier gives one. -/
def extractBase (specifier : Json) : Outcome (Option Json) := do
  let baseName ← property specifier "baseName"
  if baseName.isNothing then
    return none
  else
    let name ← property baseName "namePath"
    return if name.isNothing then none else some name

/-- The sort of contract that a property names; anything else is a plain contract. -/
def contractKindOf : Json → ContractKind
  | .str text => (ContractKind.words.lookup text).getD .contract
  | _ => .contract

/-- A contract with all its parts. -/
def extractContract (source path : String) (node : Json) : Outcome ContractDecl := do
  let name := (node.field "name").orElse (.str "")
  let parts ← (← listed (node.field "subNodes")).foldlM (addContractPart source path name) {}
  let bases ← (← listed (node.field "baseContracts")).mapM extractBase
  let location ← declaredAt node
  Checked.outcome .contract
    (ContractDecl.mk
      <$> checkedField "name" Reader.string name
      <*> pure (contractKindOf (node.field "kind"))
      <*> pure parts.functions
      <*> pure parts.structs
      <*> pure parts.enums
      <*> pure parts.stateVariables
      <*> checkedStrings "base_contracts" (bases.filterMap id)
      <*> pure location
      <*> pure path)

/-- The outline of a file without declarations. -/
def FileOutline.empty (path : String) : FileOutline :=
  { path := path, contracts := [], imports := [], pragmas := [], structs := [], enums := []
    functions := [] }

/-- Adds one top-level node of a file; nodes of other kinds are passed over. -/
def addTopLevel (source path : String) (file : FileOutline) (node : Json)
    : Outcome FileOutline := do
  match kindOf node with
  | some "ContractDefinition" =>
      let contract ← extractContract source path node
      return { file with contracts := file.contracts ++ [contract] }
  | some "ImportDirective" =>
      let directive ← extractImport path node
      return { file with imports := file.imports ++ [directive] }
  | some "PragmaDirective" =>
      return { file with pragmas := file.pragmas ++ [extractPragma node] }
  | some "StructDefinition" =>
      let struct ← extractStruct source path .null node
      return { file with structs := file.structs ++ [struct] }
  | some "EnumDefinition" =>
      let enum ← extractEnum source path .null node
      return { file with enums := file.enums ++ [enum] }
  | some "FunctionDefinition" =>
      let function ← extractFunction source path .null node
      return { file with functions := file.functions ++ [function] }
  | _ => return file

/-- The outline of the file at `path` from its syntax tree and source. -/
def extractOutline (tree : Json) (source path : String) : Outcome FileOutline := do
  (← listed (tree.field "children")).foldlM (addTopLevel source path) (.empty path)

/-- What a value is called when it is no tree at all. -/
def valueSort : Json → String
  | .null => "NoneType"
  | .bool _ => "bool"
  | .int _ => "int"
  | .double _ => "float"
  | .str _ => "str"
  | .arr _ => "list"
  | .obj _ => "dict"

/-- The outline of a file whose tree must be rooted in a source unit. -/
def outlineOf (tree : Json) (source path : String) : Outcome FileOutline :=
  match kindOf tree with
  | some "SourceUnit" => extractOutline tree source path
  | kind =>
      let found := kind.getD ""
      .error (.parse path ("expected a SourceUnit root, got " ++
        (if found = "" then valueSort tree else found)))

end SolidityAtlas
