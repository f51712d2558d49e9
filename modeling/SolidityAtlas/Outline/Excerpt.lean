import SolidityAtlas.SyntaxTree.Span

/-! The source text of a node. A node says where it stands by a range of character offsets, or else
by the lines and columns of its span; in both forms the last character belongs to the node.
-/

namespace SolidityAtlas

/-- A bound of a range: an integer or a truth value; anything else is unusable. -/
def bound? : Json → Outcome Int
  | .int value => .ok value
  | .bool value => .ok (if value then 1 else 0)
  | _ => .error .unusable

/-- The first bound of a range, which may be left open. -/
def firstBound? : Json → Outcome Int
  | .null => .ok 0
  | value => bound? value

/-- The text of a range of offsets, the last one included. Negative bounds count from the end. -/
def rangeText (source : List Char) (first last : Json) : Outcome (List Char) := do
  let last ← bound? last
  let first ← firstBound? first
  return Text.slice first (last + 1) source

/-- A line by its index, which counts from the end when negative. -/
def lineAt (lines : List (List Char)) (index : Int) : Outcome (List Char) :=
  match Text.signedGet? lines index with
  | some line => .ok line
  | none => .error .noSuchLine

/-- The text of a span. A span that starts before the first line or ends behind the last one has
none; other bounds are taken as slices take them.
-/
def spanText (lines : List (List Char)) (span : Location) : Outcome (List Char) := do
  let first := span.first.line - 1
  let last := span.last.line - 1
  if first < 0 ∨ (lines.length : Int) ≤ last then
    return []
  else if first = last then
    return Text.slice span.first.column (span.last.column + 1) (← lineAt lines first)
  else
    let opening ← lineAt lines first
    let head := Text.slice span.first.column opening.length opening
    let middle := Text.slice (first + 1) last lines
    let tail := Text.slice 0 (span.last.column + 1) (← lineAt lines last)
    return ['\n'].intercalate (head :: middle ++ [tail])

/-- The source text of a node: by its range, else by its span, else empty. -/
def excerpt (source : String) (node : Json) : Outcome String :=
  match node.field "range" with
  | .arr [first, last] => String.ofList <$> rangeText source.toList first last
  | _ => do
      match ← locationOf node with
      | none => return ""
      | some span =>
          return String.ofList (← spanText (Text.pieces '\n' source.toList) span)

end SolidityAtlas
