import SolidityAtlas.Json.Basic

/-! Kinds of syntax-tree node. A node is an object with a tag; the tables say in which properties a
node of each kind keeps its children, and which kinds have none.
-/

namespace SolidityAtlas

/-- The kind of a node: its `type` if that is a string, else its `kind` if that is one. Other values
are not nodes.
-/
def kindOf (value : Json) : Option String :=
  match value.field "type" with
  | .str tag => some tag
  | _ => (value.field "kind").string?

/-- Whether a value is a node. -/
def isNode (value : Json) : Bool :=
  (kindOf value).isSome

/-- The properties that hold the children of a node, by kind, in the order of the source. -/
def childSlots : List (String × List String) :=
  [("SourceUnit", ["children"]),
   ("ContractDefinition", ["baseContracts", "subNodes"]),
   ("FunctionDefinition", ["parameters", "returnParameters", "modifiers", "body"]),
   ("ModifierDefinition", ["parameters", "body"]),
   ("VariableDeclaration", ["typeName", "expression"]),
   ("StructDefinition", ["members"]),
   ("EnumDefinition", ["members"]),
   ("Block", ["statements"]),
   ("UncheckedStatement", ["block"]),
   ("IfStatement", ["condition", "trueBody", "falseBody"]),
   ("WhileStatement", ["condition", "body"]),
   ("DoWhileStatement", ["condition", "body"]),
   ("ForStatement", ["initExpression", "conditionExpression", "loopExpression", "body"]),
   ("TryStatement", ["expression", "returnParameters", "body", "catchClauses"]),
   ("CatchClause", ["parameters", "body"]),
   ("ReturnStatement", ["expression"]),
   ("EmitStatement", ["eventCall"]),
   ("RevertStatement", ["revertCall"]),
   ("ExpressionStatement", ["expression"]),
   ("VariableDeclarationStatement", ["variables", "initialValue"]),
   ("FunctionCall", ["expression", "arguments"]),
   ("NameValueExpression", ["expression", "arguments"]),
   ("NameValueList", ["arguments"]),
   ("MemberAccess", ["expression"]),
   ("IndexAccess", ["base", "index"]),
   ("IndexRangeAccess", ["base", "indexStart", "indexEnd"]),
   ("BinaryOperation", ["left", "right"]),
   ("Assignment", ["left", "right"]),
   ("UnaryOperation", ["subExpression"]),
   ("Conditional", ["condition", "trueExpression", "falseExpression"]),
   ("TupleExpression", ["components"]),
   ("ArrayTypeName", ["baseTypeName", "length"]),
   ("Mapping", ["keyType", "valueType"]),
   ("NewExpression", ["typeName"]),
   ("ModifierInvocation", ["arguments"]),
   ("InheritanceSpecifier", ["baseName", "arguments"]),
   ("UsingForDeclaration", ["typeName"]),
   ("StateVariableDeclaration", ["variables", "initialValue"]),
   ("EventDefinition", ["parameters"]),
   ("CustomErrorDefinition", ["parameters"]),
   ("ErrorDefinition", ["parameters"])]

/-- The kinds of node without children. -/
def leafKinds : List String :=
  ["Identifier", "NumberLiteral", "StringLiteral", "BooleanLiteral", "HexLiteral", "HexNumber",
   "ElementaryTypeName", "UserDefinedTypeName", "PragmaDirective", "ImportDirective", "EnumValue",
   "BreakStatement", "ContinueStatement", "PlaceholderStatement", "InlineAssemblyStatement",
   "AssemblyBlock"]

/-- The kind of node that defines a function. -/
def functionKind : String :=
  "FunctionDefinition"

end SolidityAtlas
