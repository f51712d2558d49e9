import SolidityAtlas.Analysis.View
import SolidityAtlas.Declaration.Record
import SolidityAtlas.Resolution.Inheritance

/-! Results of the analysis as JSON records. Analyses and lookup results are also read, so that a
view can be made of a stored one.
-/

namespace SolidityAtlas

open Reader

/-- A check that falls back to a second form; if neither fits, the faults of both are given, each
below the name of its form.
-/
def Reader.either {α : Type} (firstName : String) (first : Reader α) (secondName : String)
    (second : Reader α) : Reader α := fun value =>
  match first value, second value with
  | .valid found, _ => .valid found
  | _, .valid found => .valid found
  | .faulty faults, .faulty others =>
      .faulty (faults.map (Fault.inside firstName) ++ others.map (Fault.inside secondName))

/-- A definition of a type as a record: a struct, or else an enum. -/
def TypeDefinition.read : Reader TypeDefinition :=
  either "StructInfo" (fun value => TypeDefinition.struct <$> StructDecl.read value)
    "EnumInfo" (fun value => TypeDefinition.enum <$> EnumDecl.read value)

/-- The words for what a reference refers to. -/
def ReferenceKind.words : List (String × ReferenceKind) :=
  [("struct", .struct), ("enum", .enum), ("contract", .contract), ("interface", .interface),
   ("library", .library)]

/-- The word for what a reference refers to. -/
def ReferenceKind.text : ReferenceKind → String
  | .struct => "struct"
  | .enum => "enum"
  | .contract => "contract"
  | .interface => "interface"
  | .library => "library"

/-- A reference as a record. -/
def TypeReference.read : Reader TypeReference :=
  record fun whole =>
    TypeReference.mk
      <$> required "name" string whole
      <*> required "kind" (word ReferenceKind.words) whole
      <*> withDefault "definition" none (optional TypeDefinition.read) whole

/-- A call as a record. -/
def CallSite.read : Reader CallSite :=
  record fun whole =>
    CallSite.mk
      <$> required "name" string whole
      <*> required "expression" string whole
      <*> withDefault "arguments" [] (list string) whole
      <*> required "location" Location.read whole
      <*> withDefault "resolved_function" none (optional FunctionDecl.read) whole

/-- An analysis as a record. -/
def Analysis.read : Reader Analysis :=
  record fun whole =>
    Analysis.mk
      <$> required "function" FunctionDecl.read whole
      <*> withDefault "contract_name" none (optional string) whole
      <*> withDefault "referenced_types" [] (list TypeReference.read) whole
      <*> withDefault "inner_calls" [] (list CallSite.read) whole
      <*> withDefault "state_variables" [] (list StateVariable.read) whole

/-- A lookup result as a record. -/
def Finding.read : Reader Finding :=
  record fun whole =>
    Finding.mk
      <$> required "name" string whole
      <*> required "kind" (word LookupKind.words) whole
      <*> required "success" boolean whole
      <*> withDefault "error" none (optional string) whole
      <*> withDefault "type_reference" none (optional TypeReference.read) whole
      <*> withDefault "function_info" none (optional FunctionDecl.read) whole
      <*> withDefault "state_variable" none (optional StateVariable.read) whole
      <*> withDefault "ambiguous" false boolean whole
      <*> withDefault "candidate_files" [] (list string) whole

/-- An optional record, null where there is none. -/
def Json.orNull {α : Type} (write : α → Json) : Option α → Json
  | none => .null
  | some value => write value

/-- A record of a definition of a type. -/
def TypeDefinition.toJson : TypeDefinition → Json
  | .struct definition => definition.toJson
  | .enum definition => definition.toJson

/-- A record of a reference. -/
def TypeReference.toJson (reference : TypeReference) : Json :=
  .obj
    [("name", .str reference.name),
     ("kind", .str reference.kind.text),
     ("definition", .orNull TypeDefinition.toJson reference.definition)]

/-- A record of a call. -/
def CallSite.toJson (call : CallSite) : Json :=
  .obj
    [("name", .str call.name),
     ("expression", .str call.expression),
     ("arguments", .ofStrings call.arguments),
     ("location", call.location.toJson),
     ("resolved_function", .orNull FunctionDecl.toJson call.target)]

/-- A record of an analysis. -/
def Analysis.toJson (analysis : Analysis) : Json :=
  .obj
    [("function", analysis.function.toJson),
     ("contract_name", .ofOption analysis.contract),
     ("referenced_types", .ofList TypeReference.toJson analysis.types),
     ("inner_calls", .ofList CallSite.toJson analysis.calls),
     ("state_variables", .ofList StateVariable.toJson analysis.stateVariables)]

/-- A record of a lookup result. -/
def Finding.toJson (result : Finding) : Json :=
  .obj
    [("name", .str result.name),
     ("kind", .str result.kind.text),
     ("success", .bool result.success),
     ("error", .ofOption result.error),
     ("type_reference", .orNull TypeReference.toJson result.type),
     ("function_info", .orNull FunctionDecl.toJson result.function),
     ("state_variable", .orNull StateVariable.toJson result.stateVariable),
     ("ambiguous", .bool result.ambiguous),
     ("candidate_files", .ofStrings result.files)]

/-- A record of an implementation. -/
def Implementation.toJson (found : Implementation) : Json :=
  .obj
    [("contract_name", .str found.contract),
     ("contract_kind", .str found.contractKind.text),
     ("function_info", found.function.toJson),
     ("file_path", .str found.path),
     ("is_inherited", .bool found.isInherited),
     ("inheritance_chain", .ofStrings found.chain),
     ("implementing_contract", .str found.implementer)]

/-- A record of a block. -/
def Block.toJson (block : Block) : Json :=
  .obj
    [("id", .str block.id),
     ("title", .str block.title),
     ("subtitle", .ofOption block.subtitle),
     ("source_code", .str block.source),
     ("category", .str block.category.text),
     ("file_path", .str block.path),
     ("start_line", .int block.startLine)]

/-- A record of an arrow. -/
def Arrow.toJson (arrow : Arrow) : Json :=
  .obj
    [("id", .str arrow.id),
     ("source_block_id", .str arrow.sourceBlock),
     ("source_line", .int arrow.sourceLine),
     ("target_block_id", .str arrow.targetBlock),
     ("target_line", .int arrow.targetLine),
     ("type", .str arrow.category.text),
     ("label", .ofOption arrow.label)]

/-- A record of a view. -/
def View.toJson (view : View) : Json :=
  .obj
    [("blocks", .ofList Block.toJson view.blocks),
     ("arrows", .ofList Arrow.toJson view.arrows)]

end SolidityAtlas
