/-! Places in a source file: positions with lines from 1 and columns from 0, and the spans between
two positions, both ends included.
-/

namespace SolidityAtlas

/-- A line, counted from 1, and a column, counted from 0. -/
structure Position where
  line : Int
  column : Int
  deriving DecidableEq, Repr, Inhabited

/-- A span from its first to its last character. -/
structure Location where
  first : Position
  last : Position
  deriving DecidableEq, Repr, Inhabited

namespace Location

/-- Whether a position lies in the span. -/
def contains (span : Location) (line column : Int) : Bool :=
  !(line < span.first.line || line > span.last.line) &&
    !(line == span.first.line && column < span.first.column) &&
    !(line == span.last.line && column > span.last.column)

/-- How many lines and columns lie between the ends; spans are compared by it. -/
def extent (span : Location) : Int × Int :=
  (span.last.line - span.first.line, span.last.column - span.first.column)

/-- Lexicographic order of extents: fewer lines first, then fewer columns. -/
def extentLess (a b : Int × Int) : Bool :=
  a.1 < b.1 || (a.1 == b.1 && a.2 < b.2)

/-- Whether a span is tighter than another one. -/
def tighter (span other : Location) : Bool :=
  extentLess span.extent other.extent

/-- The span of what has none of its own: the first character of a file. -/
def origin : Location :=
  { first := ⟨1, 0⟩, last := ⟨1, 0⟩ }

end Location

end SolidityAtlas
