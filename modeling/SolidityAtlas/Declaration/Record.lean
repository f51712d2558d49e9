import SolidityAtlas.Declaration.Basic
import SolidityAtlas.Record.Field

/-! Declarations as JSON records. Reading checks a record field by field, in the order in which
writing lists the fields; both use the names that the record format gives them.
-/

namespace SolidityAtlas

open Reader

/-- A position as a record. -/
def Position.read : Reader Position :=
  record fun whole =>
    Position.mk
      <$> required "line" integer whole
      <*> required "column" integer whole

/-- A span as a record. -/
def Location.read : Reader Location :=
  record fun whole =>
    Location.mk
      <$> required "start" Position.read whole
      <*> required "end" Position.read whole

/-- A parameter as a record. -/
def Parameter.read : Reader Parameter :=
  record fun whole =>
    Parameter.mk
      <$> required "name" string whole
      <*> required "type_name" string whole
      <*> withDefault "storage_location" none (optional string) whole

/-- A function as a record. -/
def FunctionDecl.read : Reader FunctionDecl :=
  record fun whole =>
    FunctionDecl.mk
      <$> required "name" string whole
      <*> withDefault "visibility" "default" string whole
      <*> withDefault "state_mutability" none (optional string) whole
      <*> withDefault "parameters" [] (list Parameter.read) whole
      <*> withDefault "return_parameters" [] (list Parameter.read) whole
      <*> withDefault "modifiers" [] (list string) whole
      <*> withDefault "body" "" string whole
      <*> required "full_source" string whole
      <*> required "location" Location.read whole
      <*> required "file_path" string whole
      <*> withDefault "contract_name" none (optional string) whole

/-- A struct member as a record. -/
def StructMember.read : Reader StructMember :=
  record fun whole =>
    StructMember.mk
      <$> required "name" string whole
      <*> required "type_name" string whole

/-- A struct as a record. -/
def StructDecl.read : Reader StructDecl :=
  record fun whole =>
    StructDecl.mk
      <$> required "name" string whole
      <*> withDefault "members" [] (list StructMember.read) whole
      <*> required "full_source" string whole
      <*> required "location" Location.read whole
      <*> required "file_path" string whole
      <*> withDefault "contract_name" none (optional string) whole

/-- An enum as a record. -/
def EnumDecl.read : Reader EnumDecl :=
  record fun whole =>
    EnumDecl.mk
      <$> required "name" string whole
      <*> withDefault "members" [] (list string) whole
      <*> required "full_source" string whole
      <*> required "location" Location.read whole
      <*> required "file_path" string whole
      <*> withDefault "contract_name" none (optional string) whole

/-- A state variable as a record. -/
def StateVariable.read : Reader StateVariable :=
  record fun whole =>
    StateVariable.mk
      <$> required "name" string whole
      <*> required "type_name" string whole
      <*> withDefault "visibility" "default" string whole
      <*> required "full_source" string whole
      <*> required "location" Location.read whole
      <*> required "file_path" string whole
      <*> required "contract_name" string whole

/-- An import as a record. -/
def ImportDirective.read : Reader ImportDirective :=
  record fun whole =>
    ImportDirective.mk
      <$> required "path" string whole
      <*> withDefault "absolute_path" none (optional string) whole
      <*> withDefault "symbols" [] (list string) whole

/-- A contract as a record. -/
def ContractDecl.read : Reader ContractDecl :=
  record fun whole =>
    ContractDecl.mk
      <$> required "name" string whole
      <*> withDefault "kind" .contract (word ContractKind.words) whole
      <*> withDefault "functions" [] (list FunctionDecl.read) whole
      <*> withDefault "structs" [] (list StructDecl.read) whole
      <*> withDefault "enums" [] (list EnumDecl.read) whole
      <*> withDefault "state_variables" [] (list StateVariable.read) whole
      <*> withDefault "base_contracts" [] (list string) whole
      <*> required "location" Location.read whole
      <*> required "file_path" string whole

/-- A file outline as a record. -/
def FileOutline.read : Reader FileOutline :=
  record fun whole =>
    FileOutline.mk
      <$> required "file_path" string whole
      <*> withDefault "contracts" [] (list ContractDecl.read) whole
      <*> withDefault "imports" [] (list ImportDirective.read) whole
      <*> withDefault "pragmas" [] (list string) whole
      <*> withDefault "structs" [] (list StructDecl.read) whole
      <*> withDefault "enums" [] (list EnumDecl.read) whole
      <*> withDefault "functions" [] (list FunctionDecl.read) whole

/-- A list of records. -/
def Json.ofList {α : Type} (write : α → Json) (items : List α) : Json :=
  .arr (items.map write)

/-- A list of strings. -/
def Json.ofStrings (items : List String) : Json :=
  Json.ofList .str items

/-- A record of a position. -/
def Position.toJson (position : Position) : Json :=
  .obj [("line", .int position.line), ("column", .int position.column)]

/-- A record of a span. -/
def Location.toJson (span : Location) : Json :=
  .obj [("start", span.first.toJson), ("end", span.last.toJson)]

/-- A record of a parameter. -/
def Parameter.toJson (parameter : Parameter) : Json :=
  .obj
    [("name", .str parameter.name),
     ("type_name", .str parameter.typeName),
     ("storage_location", .ofOption parameter.storage)]

/-- A record of a function. -/
def FunctionDecl.toJson (function : FunctionDecl) : Json :=
  .obj
    [("name", .str function.name),
     ("visibility", .str function.visibility),
     ("state_mutability", .ofOption function.mutability),
     ("parameters", .ofList Parameter.toJson function.parameters),
     ("return_parameters", .ofList Parameter.toJson function.returns),
     ("modifiers", .ofStrings function.modifiers),
     ("body", .str function.body),
     ("full_source", .str function.source),
     ("location", function.location.toJson),
     ("file_path", .str function.path),
     ("contract_name", .ofOption function.contract)]

/-- A record of a struct member. -/
def StructMember.toJson (member : StructMember) : Json :=
  .obj [("name", .str member.name), ("type_name", .str member.typeName)]

/-- A record of a struct. -/
def StructDecl.toJson (struct : StructDecl) : Json :=
  .obj
    [("name", .str struct.name),
     ("members", .ofList StructMember.toJson struct.members),
     ("full_source", .str struct.source),
     ("location", struct.location.toJson),
     ("file_path", .str struct.path),
     ("contract_name", .ofOption struct.contract)]

/-- A record of an enum. -/
def EnumDecl.toJson (enum : EnumDecl) : Json :=
  .obj
    [("name", .str enum.name),
     ("members", .ofStrings enum.members),
     ("full_source", .str enum.source),
     ("location", enum.location.toJson),
     ("file_path", .str enum.path),
     ("contract_name", .ofOption enum.contract)]

/-- A record of a state variable. -/
def StateVariable.toJson (var : StateVariable) : Json :=
  .obj
    [("name", .str var.name),
     ("type_name", .str var.typeName),
     ("visibility", .str var.visibility),
     ("full_source", .str var.source),
     ("location", var.location.toJson),
     ("file_path", .str var.path),
     ("contract_name", .str var.contract)]

/-- A record of an import. -/
def ImportDirective.toJson (directive : ImportDirective) : Json :=
  .obj
    [("path", .str directive.path),
     ("absolute_path", .ofOption directive.target),
     ("symbols", .ofStrings directive.symbols)]

/-- A record of a contract. -/
def ContractDecl.toJson (contract : ContractDecl) : Json :=
  .obj
    [("name", .str contract.name),
     ("kind", .str contract.kind.text),
     ("functions", .ofList FunctionDecl.toJson contract.functions),
     ("structs", .ofList StructDecl.toJson contract.structs),
     ("enums", .ofList EnumDecl.toJson contract.enums),
     ("state_variables", .ofList StateVariable.toJson contract.stateVariables),
     ("base_contracts", .ofStrings contract.bases),
     ("location", contract.location.toJson),
     ("file_path", .str contract.path)]

/-- A record of a file outline. -/
def FileOutline.toJson (file : FileOutline) : Json :=
  .obj
    [("file_path", .str file.path),
     ("contracts", .ofList ContractDecl.toJson file.contracts),
     ("imports", .ofList ImportDirective.toJson file.imports),
     ("pragmas", .ofStrings file.pragmas),
     ("structs", .ofList StructDecl.toJson file.structs),
     ("enums", .ofList EnumDecl.toJson file.enums),
     ("functions", .ofList FunctionDecl.toJson file.functions)]

end SolidityAtlas
