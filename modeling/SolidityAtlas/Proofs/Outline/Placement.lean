import SolidityAtlas.Proofs.Outline.Extraction
import SolidityAtlas.Proofs.Resolution.TypeDefinitions

/-! Where the definitions of an outline stand. Each one comes from a node of its kind, among the
parts of a contract or at the top level of the tree. It has the name, the text and the span of this
node, and it names the file and the contract that it stands in.
-/

namespace SolidityAtlas

open Outcome Checked

-----------------------------------------------------------------------------------------
-- Definitions
-----------------------------------------------------------------------------------------

/-- A definition that can be looked up. -/
inductive Definition where
  | type (definition : TypeDefinition)
  | function (declared : FunctionDecl)
  | stateVariable (stored : StateVariable)
  deriving DecidableEq, Repr

namespace Definition

/-- The name of a definition. -/
def name : Definition → String
  | .type definition => definition.name
  | .function declared => declared.name
  | .stateVariable stored => stored.name

/-- The file that a definition names. -/
def path : Definition → String
  | .type definition => definition.path
  | .function declared => declared.path
  | .stateVariable stored => stored.path

/-- The contract that a definition names, none at file level. -/
def contract : Definition → Option String
  | .type definition => definition.contract
  | .function declared => declared.contract
  | .stateVariable stored => some stored.contract

/-- The text of a definition. -/
def source : Definition → String
  | .type definition => definition.source
  | .function declared => declared.source
  | .stateVariable stored => stored.source

/-- The span of a definition. -/
def location : Definition → Location
  | .type definition => definition.location
  | .function declared => declared.location
  | .stateVariable stored => stored.location

/-- The kind of node that makes a definition. -/
def nodeKind : Definition → String
  | .type (.struct _) => "StructDefinition"
  | .type (.enum _) => "EnumDefinition"
  | .function _ => functionKind
  | .stateVariable _ => "StateVariableDeclaration"

/-- A node gives a definition its name. Of the variables of a declaration one has to. -/
def NamedBy (node : Json) : Definition → Prop
  | .type definition => (node.field "name").orElse (.str "") = .str definition.name
  | .function declared => functionName node = .str declared.name
  | .stateVariable stored =>
      ∃ item ∈ itemsOf (node.field "variables"),
        (item.field "name").orElse (.str "") = .str stored.name

/-- What a definition takes from its node and its place: the name, the text and the span of a node
of its kind, the file, and the contract it stands in.
-/
structure ExtractedFrom (source path : String) (owner : Option String) (node : Json)
    (definition : Definition)
    : Prop where
  kind : kindOf node = some definition.nodeKind
  named : definition.NamedBy node
  read : excerpt source node = .ok definition.source
  placed : declaredAt node = .ok definition.location
  stored : definition.path = path
  owned : definition.contract = owner

end Definition

/-- Structs, enums, functions and state variables as definitions. -/
def definitionsAmong (structs : List StructDecl) (enums : List EnumDecl)
    (functions : List FunctionDecl) (stateVariables : List StateVariable)
    : List Definition :=
  (typesAmong structs enums).map .type ++ functions.map .function
    ++ stateVariables.map .stateVariable

/-- The definitions among the parts of a contract. -/
def ContractParts.allDefinitions (parts : ContractParts) : List Definition :=
  definitionsAmong parts.structs parts.enums parts.functions parts.stateVariables

/-- All definitions in a contract. -/
def ContractDecl.allDefinitions (declared : ContractDecl) : List Definition :=
  definitionsAmong declared.structs declared.enums declared.functions declared.stateVariables

/-- The definitions of a file that stand in no contract. -/
def FileOutline.freeDefinitions (file : FileOutline) : List Definition :=
  definitionsAmong file.structs file.enums file.functions []

/-- All definitions in a file. -/
def FileOutline.allDefinitions (file : FileOutline) : List Definition :=
  file.contracts.flatMap (·.allDefinitions) ++ file.freeDefinitions

/-- A definition stands in a file where it says: in a contract of the name it gives, or at file
level if it gives none.
-/
def FileOutline.Holds (file : FileOutline) (definition : Definition) : Prop :=
  match definition.contract with
  | some owner =>
      ∃ declared ∈ file.contracts, declared.name = owner ∧ definition ∈ declared.allDefinitions
  | none => definition ∈ file.freeDefinitions

/-- A node stands where the outline looks for definitions: among the parts of a contract of a name,
or at the top level.
-/
inductive DefinitionNode (tree : Json) : Option String → Json → Prop
  | inContract {contract part : Json} {owner : String}
    (top : contract ∈ itemsOf (tree.field "children")) (isContract : isContractNode contract = true)
    (named : (contract.field "name").orElse (.str "") = .str owner)
    (inside : part ∈ itemsOf (contract.field "subNodes"))
    : DefinitionNode tree (some owner) part
  | atTop {child : Json} (top : child ∈ itemsOf (tree.field "children"))
    : DefinitionNode tree none child

variable {source path name : String} {contract node tree : Json} {owner : Option String}
  {file : FileOutline} {function : FunctionDecl} {definition : TypeDefinition}
  {holds : Definition → Prop}

/-- Something holds of all definitions when it holds of those of each sort. -/
theorem forall_mem_definitionsAmong {structs : List StructDecl} {enums : List EnumDecl}
    {functions : List FunctionDecl} {stateVariables : List StateVariable}
    : (∀ definition ∈ definitionsAmong structs enums functions stateVariables, holds definition)
      ↔ (∀ struct ∈ structs, holds (.type (.struct struct)))
        ∧ (∀ enum ∈ enums, holds (.type (.enum enum)))
        ∧ (∀ function ∈ functions, holds (.function function))
        ∧ ∀ stored ∈ stateVariables, holds (.stateVariable stored) := by
  simp only [definitionsAmong, typesAmong, List.map_append, List.map_map, List.forall_mem_append,
    List.forall_mem_map, Function.comp_apply, and_assoc]

section

variable {structs : List StructDecl} {enums : List EnumDecl} {functions : List FunctionDecl}
  {stateVariables : List StateVariable}

/-- The types among definitions. -/
theorem type_mem_definitionsAmong
    : .type definition ∈ definitionsAmong structs enums functions stateVariables
      ↔ definition ∈ typesAmong structs enums := by
  simp [definitionsAmong]

/-- The functions among definitions. -/
theorem function_mem_definitionsAmong
    : .function function ∈ definitionsAmong structs enums functions stateVariables
      ↔ function ∈ functions := by
  simp [definitionsAmong]

/-- The state variables among definitions. -/
theorem stateVariable_mem_definitionsAmong {stored : StateVariable}
    : .stateVariable stored ∈ definitionsAmong structs enums functions stateVariables
      ↔ stored ∈ stateVariables := by
  simp [definitionsAmong]

end

-----------------------------------------------------------------------------------------
-- Nodes of definitions
-----------------------------------------------------------------------------------------

/-- A checked string is the string itself. -/
theorem eq_str_of_checkedField {value : Json} {text : String}
    (valid : checkedField name Reader.string value = .valid text)
    : value = .str text := by
  cases value with
  | str found => exact congrArg Json.str (Checked.valid.inj valid)
  | null | bool _ | int _ | double _ | arr _ | obj _ => cases valid

/-- The checked name of a contract is the name, if there is one. -/
theorem eq_of_checkedField_ofOption {found : Option String}
    (valid
      : checkedField name (Reader.optional Reader.string) (.ofOption owner) = .valid found)
    : found = owner := by
  cases owner with
  | none => exact (Checked.valid.inj valid).symm
  | some text => exact (Checked.valid.inj valid).symm

/-- A struct stands for its node. -/
theorem extractStruct_spec {struct : StructDecl} (kind : kindOf node = some "StructDefinition")
    (done : extractStruct source path (.ofOption owner) node = .ok struct)
    : (Definition.type (.struct struct)).ExtractedFrom source path owner node := by
  simp only [extractStruct, bind_eq_ok_iff, outcome_eq_ok_iff, seq_eq_valid_iff,
    map_eq_valid_iff, pure_eq_valid_iff, ↓existsAndEq, and_true] at done
  obtain ⟨items, -, members, -, text, read, span, placed, contract, name, named, owned, rfl⟩ := done
  exact ⟨kind, eq_str_of_checkedField named, read, placed, rfl, eq_of_checkedField_ofOption owned⟩

/-- An enum stands for its node. -/
theorem extractEnum_spec {enum : EnumDecl} (kind : kindOf node = some "EnumDefinition")
    (done : extractEnum source path (.ofOption owner) node = .ok enum)
    : (Definition.type (.enum enum)).ExtractedFrom source path owner node := by
  simp only [extractEnum, bind_eq_ok_iff, outcome_eq_ok_iff, seq_eq_valid_iff,
    map_eq_valid_iff, pure_eq_valid_iff, ↓existsAndEq, and_true] at done
  obtain ⟨items, -, members, -, text, read, span, placed, fields⟩ := done
  obtain ⟨contract, names, name, ⟨named, -⟩, owned, rfl⟩ := fields
  exact ⟨kind, eq_str_of_checkedField named, read, placed, rfl, eq_of_checkedField_ofOption owned⟩

/-- A function stands for its node, as a definition. -/
theorem extractFunction_definition (kind : kindOf node = some functionKind)
    (done : extractFunction source path (.ofOption owner) node = .ok function)
    : (Definition.function function).ExtractedFrom source path owner node := by
  obtain ⟨named, read, placed, stored, owned⟩ := extractFunction_spec done
  exact ⟨kind, eq_str_of_checkedField named, read, placed, stored,
    eq_of_checkedField_ofOption owned⟩

/-- A listed value that a definition comes from is an item of an array. -/
theorem Definition.ExtractedFrom.mem_itemsOf {value : Json} {items : List Json}
    {definition : Definition} (taken : definition.ExtractedFrom source path owner node)
    (done : listed value = .ok items) (member : node ∈ items)
    : node ∈ itemsOf value := by
  refine mem_itemsOf_of_listed done member ?_
  rintro text rfl
  have kind := taken.kind
  rw [kindOf_str] at kind
  cases kind

/-- The state variables of a declaration stand for its node. -/
theorem extractStateVariables_spec {declared : List StateVariable}
    (kind : kindOf node = some "StateVariableDeclaration")
    (done : extractStateVariables source path (.str name) node = .ok declared)
    : ∀ stored ∈ declared,
        (Definition.stateVariable stored).ExtractedFrom source path (some name) node := by
  simp only [extractStateVariables, bind_eq_ok_iff, mapM_eq_ok_iff] at done
  obtain ⟨text, read, span, placed, items, found, each⟩ := done
  intro stored member
  obtain ⟨item, known, done⟩ := forall₂_mem_right each stored member
  simp only [extractStateVariable, propertyOr_eq_ok_iff, bind_eq_ok_iff, outcome_eq_ok_iff,
    seq_eq_valid_iff, map_eq_valid_iff, pure_eq_valid_iff, ↓existsAndEq, and_true] at done
  obtain ⟨isObject, typeName, -, -, fields⟩ := done
  obtain ⟨owner, visibility, typeText, called, ⟨⟨named, -⟩, -⟩, owned, rfl⟩ := fields
  have inArray : item ∈ itemsOf (node.field "variables") := by
    refine mem_itemsOf_of_listed found known ?_
    rintro text rfl
    cases isObject
  have sameOwner : Json.str name = .str owner := eq_str_of_checkedField owned
  refine ⟨kind, ⟨item, inArray, eq_str_of_checkedField named⟩, read, placed, rfl, ?_⟩
  rw [Definition.contract, Json.str.inj sameOwner]

/-- Whatever holds of the definitions that a node makes holds after the node was added to a
contract.
-/
theorem addContractPart_definitions {parts next : ContractParts}
    (done : addContractPart source path (.str name) parts node = .ok next)
    (new
      : ∀ definition : Definition,
          definition.ExtractedFrom source path (some name) node → holds definition)
    (old : ∀ definition ∈ parts.allDefinitions, holds definition)
    : ∀ definition ∈ next.allDefinitions, holds definition := by
  rw [ContractParts.allDefinitions, forall_mem_definitionsAmong] at old ⊢
  obtain ⟨structs, enums, functions, stateVariables⟩ := old
  unfold addContractPart at done
  split at done
  all_goals simp only [bind_eq_ok_iff, pure_eq_ok_iff] at done
  · rename_i kind
    obtain ⟨function, extracted, rfl⟩ := done
    have added := new _ (extractFunction_definition kind extracted)
    refine ⟨structs, enums, ?_, stateVariables⟩
    exact List.forall_mem_append.mpr ⟨functions, by simpa using added⟩
  · rename_i kind
    obtain ⟨struct, extracted, rfl⟩ := done
    have added := new _ (extractStruct_spec kind extracted)
    refine ⟨?_, enums, functions, stateVariables⟩
    exact List.forall_mem_append.mpr ⟨structs, by simpa using added⟩
  · rename_i kind
    obtain ⟨enum, extracted, rfl⟩ := done
    have added := new _ (extractEnum_spec kind extracted)
    refine ⟨structs, ?_, functions, stateVariables⟩
    exact List.forall_mem_append.mpr ⟨enums, by simpa using added⟩
  · rename_i kind
    obtain ⟨declared, extracted, rfl⟩ := done
    have added := extractStateVariables_spec kind extracted
    refine ⟨structs, enums, functions, ?_⟩
    exact List.forall_mem_append.mpr
      ⟨stateVariables, fun stored member => new _ (added stored member)⟩
  · obtain rfl := done
    exact ⟨structs, enums, functions, stateVariables⟩

/-- All definitions in a contract come from its parts and name the contract. -/
theorem extractContract_definitions {declared : ContractDecl}
    (done : extractContract source path node = .ok declared)
    : (node.field "name").orElse (.str "") = .str declared.name
      ∧ ∀ definition ∈ declared.allDefinitions,
          ∃ part ∈ itemsOf (node.field "subNodes"),
            definition.ExtractedFrom source path (some declared.name) part := by
  have named := eq_str_of_checkedField (extractContract_spec done).named
  refine ⟨named, ?_⟩
  simp only [extractContract, named, bind_eq_ok_iff, outcome_eq_ok_iff, seq_eq_valid_iff,
    map_eq_valid_iff, pure_eq_valid_iff, ↓existsAndEq, and_true] at done
  obtain ⟨subNodes, found, parts, collected, specifiers, -, bases, -, span, -, fields⟩ := done
  obtain ⟨bases, contractName, -, -, rfl⟩ := fields
  have inParts
      : ∀ definition ∈ parts.allDefinitions,
          ∃ part ∈ subNodes, definition.ExtractedFrom source path (some contractName) part :=
    foldlM_preserves
      (fun parts =>
        ∀ definition ∈ parts.allDefinitions,
          ∃ part ∈ subNodes, definition.ExtractedFrom source path (some contractName) part)
      (fun part member _ _ stepped =>
        addContractPart_definitions stepped fun _ taken => ⟨part, member, taken⟩)
      collected (by simp [ContractParts.allDefinitions, definitionsAmong, typesAmong])
  intro definition member
  obtain ⟨part, known, taken⟩ := inParts definition member
  exact ⟨part, taken.mem_itemsOf found known, taken⟩

-----------------------------------------------------------------------------------------
-- Definitions of a file
-----------------------------------------------------------------------------------------

/-- Whatever holds of the definitions that a node makes holds of those outside contracts after the
node was added to a file.
-/
theorem addTopLevel_freeDefinitions {next : FileOutline}
    (done : addTopLevel source path file node = .ok next)
    (new
      : ∀ definition : Definition,
          definition.ExtractedFrom source path none node → holds definition)
    (old : ∀ definition ∈ file.freeDefinitions, holds definition)
    : ∀ definition ∈ next.freeDefinitions, holds definition := by
  rw [FileOutline.freeDefinitions, forall_mem_definitionsAmong] at old ⊢
  obtain ⟨structs, enums, functions, stateVariables⟩ := old
  unfold addTopLevel at done
  split at done
  all_goals simp only [bind_eq_ok_iff, pure_eq_ok_iff] at done
  · obtain ⟨declared, -, rfl⟩ := done
    exact ⟨structs, enums, functions, stateVariables⟩
  · obtain ⟨directive, -, rfl⟩ := done
    exact ⟨structs, enums, functions, stateVariables⟩
  · obtain rfl := done
    exact ⟨structs, enums, functions, stateVariables⟩
  · rename_i kind
    obtain ⟨struct, extracted, rfl⟩ := done
    have added := new _ (extractStruct_spec kind extracted)
    refine ⟨?_, enums, functions, stateVariables⟩
    exact List.forall_mem_append.mpr ⟨structs, by simpa using added⟩
  · rename_i kind
    obtain ⟨enum, extracted, rfl⟩ := done
    have added := new _ (extractEnum_spec kind extracted)
    refine ⟨structs, ?_, functions, stateVariables⟩
    exact List.forall_mem_append.mpr ⟨enums, by simpa using added⟩
  · rename_i kind
    obtain ⟨function, extracted, rfl⟩ := done
    have added := new _ (extractFunction_definition kind extracted)
    refine ⟨structs, enums, ?_, stateVariables⟩
    exact List.forall_mem_append.mpr ⟨functions, by simpa using added⟩
  · obtain rfl := done
    exact ⟨structs, enums, functions, stateVariables⟩

/-- The definitions of an outline outside contracts come from the top level and name no contract. -/
theorem exists_node_of_mem_freeDefinitions (outlined : outlineOf tree source path = .ok file)
    {definition : Definition} (member : definition ∈ file.freeDefinitions)
    : ∃ child ∈ itemsOf (tree.field "children"),
        definition.ExtractedFrom source path none child := by
  unfold outlineOf at outlined
  split at outlined
  · simp only [extractOutline, bind_eq_ok_iff] at outlined
    obtain ⟨children, found, collected⟩ := outlined
    have inFile
        : ∀ definition ∈ file.freeDefinitions,
            ∃ child ∈ children, definition.ExtractedFrom source path none child :=
      foldlM_preserves
        (fun file =>
          ∀ definition ∈ file.freeDefinitions,
            ∃ child ∈ children, definition.ExtractedFrom source path none child)
        (fun child member _ _ stepped =>
          addTopLevel_freeDefinitions stepped fun _ taken => ⟨child, member, taken⟩)
        collected
        (by simp [FileOutline.freeDefinitions, FileOutline.empty, definitionsAmong, typesAmong])
    obtain ⟨child, known, taken⟩ := inFile definition member
    exact ⟨child, taken.mem_itemsOf found known, taken⟩
  · cases outlined

/-- Every definition of an outline stands where it says, and it comes from a node of the tree that
stands there too.
-/
theorem exists_node_of_mem_allDefinitions (outlined : outlineOf tree source path = .ok file)
    {definition : Definition} (member : definition ∈ file.allDefinitions)
    : file.Holds definition
      ∧ ∃ node,
          DefinitionNode tree definition.contract node
          ∧ definition.ExtractedFrom source path definition.contract node := by
  rw [FileOutline.Holds]
  rcases List.mem_append.mp member with inContracts | free
  · obtain ⟨declared, listed, inside⟩ := List.mem_flatMap.mp inContracts
    obtain ⟨contract, top, done⟩ :=
      forall₂_mem_right (outlineOf_spec outlined).2.contracts declared listed
    obtain ⟨topMember, isContract⟩ := List.mem_filter.mp top
    obtain ⟨named, parts⟩ := extractContract_definitions done
    obtain ⟨part, partMember, taken⟩ := parts definition inside
    rw [taken.owned]
    exact ⟨⟨declared, listed, rfl, inside⟩, part, .inContract topMember isContract named partMember,
      taken⟩
  · obtain ⟨child, top, taken⟩ := exists_node_of_mem_freeDefinitions outlined free
    rw [taken.owned]
    exact ⟨free, child, .atTop top, taken⟩

-----------------------------------------------------------------------------------------
-- Sorts of definition
-----------------------------------------------------------------------------------------

/-- The types of a file are among its definitions. -/
theorem mem_allDefinitions_of_mem_types (member : definition ∈ file.types)
    : .type definition ∈ file.allDefinitions := by
  rcases List.mem_append.mp member with inContracts | free
  · obtain ⟨declared, listed, inside⟩ := List.mem_flatMap.mp inContracts
    refine List.mem_append_left _ (List.mem_flatMap.mpr ⟨declared, listed, ?_⟩)
    exact type_mem_definitionsAmong.mpr inside
  · exact List.mem_append_right _ (type_mem_definitionsAmong.mpr free)

/-- The functions of a file are among its definitions. -/
theorem mem_allDefinitions_of_mem_allFunctions (member : function ∈ file.allFunctions)
    : .function function ∈ file.allDefinitions := by
  rcases List.mem_append.mp member with inContracts | free
  · obtain ⟨declared, listed, inside⟩ := List.mem_flatMap.mp inContracts
    refine List.mem_append_left _ (List.mem_flatMap.mpr ⟨declared, listed, ?_⟩)
    exact function_mem_definitionsAmong.mpr inside
  · exact List.mem_append_right _ (function_mem_definitionsAmong.mpr free)

/-- Whether all types among structs and enums name a file. -/
def AllAt (path : String) (definitions : List TypeDefinition) : Prop :=
  ∀ definition ∈ definitions, definition.path = path

/-- Every definition of an outline names its file. -/
theorem path_of_mem_allDefinitions (outlined : outlineOf tree source path = .ok file)
    {definition : Definition} (member : definition ∈ file.allDefinitions)
    : definition.path = file.path := by
  obtain ⟨-, node, -, taken⟩ := exists_node_of_mem_allDefinitions outlined member
  rw [taken.stored, (outlineOf_spec outlined).2.stored]

/-- All types of an outline name its file. -/
theorem path_of_mem_types (outlined : outlineOf tree source path = .ok file)
    (member : definition ∈ file.types)
    : definition.path = file.path :=
  path_of_mem_allDefinitions outlined (mem_allDefinitions_of_mem_types member)

/-- All functions of an outline name its file. -/
theorem path_of_mem_allFunctions (outlined : outlineOf tree source path = .ok file)
    (member : function ∈ file.allFunctions)
    : function.path = file.path :=
  path_of_mem_allDefinitions outlined (mem_allDefinitions_of_mem_allFunctions member)

/-- A function at file level names no contract. -/
theorem contract_of_mem_functions (outlined : outlineOf tree source path = .ok file)
    (member : function ∈ file.functions)
    : function.contract = none := by
  have free : .function function ∈ file.freeDefinitions :=
    function_mem_definitionsAmong.mpr member
  obtain ⟨child, -, taken⟩ := exists_node_of_mem_freeDefinitions outlined free
  exact taken.owned

end SolidityAtlas
