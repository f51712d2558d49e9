import SolidityAtlas.Analysis.Lookup

/-! The dependency view of an analysis: a block of source for the function and for each thing it
depends on, and an arrow from the line that uses a thing to its block. Blocks of one id are the same
block; arrows of one id are numbered apart.
-/

namespace SolidityAtlas

/-- What a block shows. -/
inductive BlockCategory where
  | main
  | struct
  | enum
  | function
  | stateVariable
  deriving DecidableEq, Repr

/-- The word for a category. -/
def BlockCategory.text : BlockCategory → String
  | .main => "main"
  | .struct => "struct"
  | .enum => "enum"
  | .function => "function"
  | .stateVariable => "statevar"

/-- A piece of source in the view. -/
structure Block where
  id : String
  title : String
  subtitle : Option String
  source : String
  category : BlockCategory
  path : String
  startLine : Int
  deriving DecidableEq, Repr

/-- A use of one block in a line of another one. -/
structure Arrow where
  id : String
  sourceBlock : String
  sourceLine : Int
  targetBlock : String
  targetLine : Int
  category : BlockCategory
  label : Option String
  deriving DecidableEq, Repr

/-- Blocks and arrows. -/
structure View where
  blocks : List Block
  arrows : List Arrow
  deriving DecidableEq, Repr

/-- The block of the analysed function. -/
def Analysis.mainBlock (analysis : Analysis) : Block :=
  { id := "main"
    title := analysis.function.name
    subtitle := analysis.contract
    source := analysis.function.source
    category := .main
    path := analysis.function.path
    startLine := analysis.function.location.first.line }

/-- The category of a type block; only structs and enums have blocks. -/
def ReferenceKind.category? : ReferenceKind → Option BlockCategory
  | .struct => some .struct
  | .enum => some .enum
  | _ => none

/-- The block of a type. -/
def TypeReference.block? (reference : TypeReference) : Option Block := do
  let definition ← reference.definition
  let category ← reference.kind.category?
  return {
    id := category.text ++ "-" ++ Text.unqualified reference.name
    title := reference.name
    subtitle := definition.contract
    source := definition.source
    category := category
    path := definition.path
    startLine := definition.location.first.line
  }

/-- The block of a function that is called. -/
def FunctionDecl.block (function : FunctionDecl) : Block :=
  { id := "function-" ++ function.name
    title := function.name
    subtitle := function.contract
    source := function.source
    category := .function
    path := function.path
    startLine := function.location.first.line }

/-- The block of a state variable. -/
def StateVariable.block (stored : StateVariable) : Block :=
  { id := "statevar-" ++ stored.name
    title := stored.name
    subtitle := some stored.contract
    source := stored.source
    category := .stateVariable
    path := stored.path
    startLine := stored.location.first.line }

/-- The file line of the first line of a function that mentions a name, or else its first line. -/
def FunctionDecl.lineMentioning (function : FunctionDecl) (name : String) : Int :=
  let lines := Text.pieces '\n' function.source.toList
  function.location.first.line + (lines.findIdx? (Vocabulary.wholeWord name).occursIn).getD 0

/-- An id that no arrow has: the id itself, or with the first number from 2 on that makes it new. -/
def freshArrowId (arrows : List Arrow) (id : String) : String :=
  let taken := arrows.map (·.id)
  if taken.contains id then
    let numbered := (List.range (arrows.length + 1)).map fun n => id ++ "-" ++ toString (n + 2)
    (numbered.find? fun candidate => !taken.contains candidate).getD id
  else id

/-- Adds a block, if no block has its id, and an arrow to it from a line of another block. -/
def View.connect (view : View) (sourceBlock : String) (sourceLine : Int) (label : Option String)
    (block : Block) : View :=
  let id := "arrow-" ++ sourceBlock ++ "-" ++ block.id ++ "-" ++ toString sourceLine
  let arrow : Arrow :=
    { id := freshArrowId view.arrows id
      sourceBlock := sourceBlock
      sourceLine := sourceLine
      targetBlock := block.id
      targetLine := block.startLine
      category := block.category
      label := label }
  { blocks :=
      if view.blocks.any fun other => other.id = block.id then view.blocks
      else view.blocks ++ [block]
    arrows := view.arrows ++ [arrow] }

/-- One thing that the view connects the function to: its block, the line that uses it and what the
arrow is called.
-/
structure Dependency where
  block : Block
  line : Int
  label : Option String
  deriving DecidableEq, Repr

/-- What an analysed function depends on, in the order types, calls, state variables. -/
def Analysis.dependencies (analysis : Analysis) : List Dependency :=
  let function := analysis.function
  (analysis.types.filterMap fun reference =>
    reference.block?.map fun block =>
      { block := block
        line := function.lineMentioning (Text.unqualified reference.name)
        label := none }) ++
    (analysis.calls.filterMap fun call =>
      call.target.map fun target =>
        { block := target.block
          line := call.location.first.line
          label := some call.expression }) ++
    analysis.stateVariables.map fun stored =>
      { block := stored.block, line := function.lineMentioning stored.name, label := none }

/-- The view of an analysis. -/
def Analysis.view (analysis : Analysis) : View :=
  analysis.dependencies.foldl
    (fun view dependency =>
      view.connect "main" dependency.line dependency.label dependency.block)
    { blocks := [analysis.mainBlock], arrows := [] }

/-- The block of what a lookup found. -/
def Finding.block? (result : Finding) : Option Block :=
  match result.type with
  | some reference => reference.block?
  | none =>
      match result.function with
      | some function => some function.block
      | none => result.stateVariable.map StateVariable.block

/-- The block of a successful lookup with an arrow from the line of the block it is imported
into.
-/
def Finding.importView (result : Finding) (sourceBlock : String) (sourceLine : Int)
    : View :=
  match if result.success then result.block? else none with
  | none => { blocks := [], arrows := [] }
  | some block =>
      View.connect { blocks := [], arrows := [] } sourceBlock sourceLine none block

end SolidityAtlas
