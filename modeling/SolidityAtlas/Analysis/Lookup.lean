import SolidityAtlas.Analysis.Basic

/-! Lookup of a single symbol by name and kind: the definition that is found first, and whether the
name is ambiguous in the workspace.
-/

namespace SolidityAtlas

/-- What can be looked up. -/
inductive LookupKind where
  | struct
  | enum
  /-- A struct or an enum. -/
  | type
  | function
  | stateVariable
  deriving DecidableEq, Repr

/-- The words for what can be looked up. -/
def LookupKind.words : List (String × LookupKind) :=
  [("struct", .struct), ("enum", .enum), ("type", .type), ("function", .function),
   ("statevar", .stateVariable)]

/-- The word for a kind. -/
def LookupKind.text : LookupKind → String
  | .struct => "struct"
  | .enum => "enum"
  | .type => "type"
  | .function => "function"
  | .stateVariable => "statevar"

/-- The kind that a value names. -/
def LookupKind.ofJson (value : Json) : Outcome LookupKind :=
  match value.string?.bind fun text => LookupKind.words.lookup text with
  | some kind => .ok kind
  | none => .error (.config (.unknownLookupKind value))

/-- A request to look a symbol up. The contract is a hint where to look first. -/
structure LookupRequest where
  kind : LookupKind
  name : String
  contract : Option String
  deriving DecidableEq, Repr

/-- The answer to a request: at most one of a type, a function and a state variable. -/
structure Finding where
  name : String
  kind : LookupKind
  success : Bool
  error : Option String
  type : Option TypeReference
  function : Option FunctionDecl
  stateVariable : Option StateVariable
  /-- Whether there is more than one definition. -/
  ambiguous : Bool
  /-- The files of all definitions. -/
  files : List String
  deriving DecidableEq, Repr

namespace Finding

/-- The answer when there is no definition. -/
def notFound (name : String) (kind : LookupKind) : Finding :=
  { name := name
    kind := kind
    success := false
    error := some ("no definition found for " ++ name)
    type := none
    function := none
    stateVariable := none
    ambiguous := false
    files := [] }

/-- The answer without a definition yet, when there are definitions in files. -/
def found (name : String) (kind : LookupKind) (ambiguous : Bool) (files : List String)
    : Finding :=
  { name := name
    kind := kind
    success := true
    error := none
    type := none
    function := none
    stateVariable := none
    ambiguous := ambiguous
    files := distinct files }

end Finding

/-- Whether a reference is of the kind that was asked for. -/
def LookupKind.accepts (kind : LookupKind) (reference : TypeReference) : Bool :=
  match kind with
  | .struct => reference.kind == .struct
  | .enum => reference.kind == .enum
  | _ => true

namespace Workspace

/-- The types of a name that a kind accepts. -/
def typesOfKind (workspace : Workspace) (name : String) (kind : LookupKind)
    : List TypeReference :=
  (workspace.typesNamed name).filter kind.accepts

/-- The types that a request may mean: those of the hinted contract if the name is bare and there
are any, else all of the name.
-/
def typesFor (workspace : Workspace) (request : LookupRequest) : List TypeReference :=
  let hinted :=
    match request.contract.filter (· ≠ "") with
    | some contract =>
        if (Text.qualifierAndName request.name).1.isNone then
          workspace.typesOfKind (contract ++ "." ++ request.name) request.kind
        else []
    | none => []
  if hinted.isEmpty then workspace.typesOfKind request.name request.kind else hinted

/-- Looks a struct or enum up. -/
def typeFinding (workspace : Workspace) (request : LookupRequest) : Finding :=
  match workspace.typesFor request with
  | [] => .notFound request.name request.kind
  | first :: rest =>
      let files := (first :: rest).filterMap fun reference => reference.definition.map (·.path)
      { Finding.found request.name request.kind (!rest.isEmpty) files with
        type := some first }

/-- Looks a function up. -/
def functionFinding (workspace : Workspace) (name : String) : Finding :=
  match workspace.functionsNamed name with
  | [] => .notFound name .function
  | first :: rest =>
      { Finding.found name .function (!rest.isEmpty) ((first :: rest).map (·.path)) with
        function := some first }

/-- Looks a state variable up. -/
def variableFinding (workspace : Workspace) (name : String) (contract : Option String)
    : Finding :=
  match workspace.resolveVariable name contract none with
  | none => .notFound name .stateVariable
  | some first =>
      let candidates := workspace.variablesNamed name
      { Finding.found name .stateVariable (1 < candidates.length)
          (candidates.map (·.path)) with
        stateVariable := some first }

/-- Looks a symbol up. -/
def lookup (workspace : Workspace) (request : LookupRequest) : Finding :=
  match request.kind with
  | .function => workspace.functionFinding request.name
  | .stateVariable => workspace.variableFinding request.name request.contract
  | .struct | .enum | .type => workspace.typeFinding request

end Workspace

end SolidityAtlas
