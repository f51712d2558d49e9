import SolidityAtlas.SyntaxTree.Kind

/-! Type names as Solidity writes them, rendered from the nodes of a syntax tree: elementary and
user-defined names, arrays, mappings and function types.
-/

namespace SolidityAtlas

/-- The length between the brackets of an array type, empty where it has none that is written. -/
def arrayLengthText (length : Json) : String :=
  (((length.field "number").orElse (length.field "name")).orElse (.str "")).text

/-- The rendering of a part, empty where the part is missing. -/
def partText (parts : List (String × Json)) (name : String) : String :=
  ((parts.lookup name).getD (.str "")).text

/-- The name of a type node of a kind, given the names of its properties. A name that is no string
is handed on as it is.
-/
def renderType (kind : String) (node : Json) (parts : List (String × Json)) : Json :=
  match kind with
  | "ElementaryTypeName" => (node.field "name").orElse (.str "")
  | "UserDefinedTypeName" => (node.field "namePath").orElse (.str "")
  | "ArrayTypeName" =>
      .str (partText parts "baseTypeName" ++ "[" ++ arrayLengthText (node.field "length") ++ "]")
  | "Mapping" =>
      .str ("mapping(" ++ partText parts "keyType" ++ " => " ++ partText parts "valueType" ++ ")")
  | "FunctionTypeName" => .str "function"
  | _ => .str ""

mutual

/-- The name of the type that a node stands for, empty for anything else. -/
def typeText : Json → Json
  | .obj fields =>
      match kindOf (.obj fields) with
      | some kind => renderType kind (.obj fields) (typeTexts fields)
      | none => .str ""
  | _ => .str ""

/-- The names of the types that properties stand for. -/
def typeTexts : List (String × Json) → List (String × Json)
  | [] => []
  | (name, value) :: rest => (name, typeText value) :: typeTexts rest

end

end SolidityAtlas
