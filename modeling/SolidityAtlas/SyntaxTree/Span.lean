import SolidityAtlas.SyntaxTree.Walk
import SolidityAtlas.Declaration.Record
import SolidityAtlas.Failure

/-! Spans of syntax-tree nodes, and the innermost function around a position. A node carries its
span in `loc`; a span with a part missing counts as none, while a part of the wrong type is a fault.
-/

namespace SolidityAtlas

/-- A position from the line and column that a node gives. -/
def positionOf (line column : Json) : Outcome Position :=
  Checked.outcome .position
    (Position.mk
      <$> Checked.inside "line" (Reader.integer line)
      <*> Checked.inside "column" (Reader.integer column))

/-- The line and column in one end of a span, if both are there. -/
def endOf? (span : Json) (name : String) : Option (Json × Json) := do
  let position ← span.field? name
  return (← position.field? "line", ← position.field? "column")

/-- The span of a node, if it has one. The first position is checked before the last is looked
at.
-/
def locationOf (node : Json) : Outcome (Option Location) :=
  match endOf? (node.field "loc") "start" with
  | none => .ok none
  | some (line, column) => do
      let first ← positionOf line column
      match endOf? (node.field "loc") "end" with
      | none => return none
      | some (line, column) =>
          let last ← positionOf line column
          return some { first := first, last := last }

/-- The tighter of the best node so far and a node with its span, if the span holds the position;
of equally tight nodes the earlier one stays.
-/
def tightest (line column : Int) (best : Option (Json × Location)) (node : Json)
    (span : Option Location) : Option (Json × Location) :=
  match span with
  | none => best
  | some span =>
      if span.contains line column then
        match best with
        | none => some (node, span)
        | some (_, other) => if span.tighter other then some (node, span) else best
      else best

/-- One step of the search for the innermost function. -/
def enclosingStep (line column : Int) (best : Option (Json × Location)) (node : Json)
    : Outcome (Option (Json × Location)) := do
  return tightest line column best node (← locationOf node)

/-- The innermost function definition around a position, with its span; lines count from 1. -/
def innermostFunction (tree : Json) (line column : Int) : Outcome (Option (Json × Location)) :=
  (allOfKind tree functionKind).foldlM (enclosingStep line column) none

end SolidityAtlas
