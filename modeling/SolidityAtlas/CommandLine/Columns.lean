import SolidityAtlas.Json.Double
import SolidityAtlas.Text.Wrap

/-! The widths of the columns of a table. A column is as wide as its widest cell and a blank on both
sides of it. Where the columns do not fit, the widest ones are narrowed first, down to the next
widest ones, until they do.
-/

namespace SolidityAtlas.Columns

/-- The width of a column with some cells, which is at most `limit`. -/
def naturalWidth (limit : Nat) (cells : List (List Char)) : Nat :=
  cells.foldl (fun width cell => max width (min limit (Text.widest cell + 2))) 0

/-- The columns that widths take together. -/
def total (widths : List Nat) : Nat :=
  widths.foldl (· + ·) 0

/-- The greatest of some widths. -/
def greatest (widths : List Nat) : Nat :=
  widths.foldl max 0

/-- Takes `excess` from the columns of width `widest`, of which there are `count`, in equal shares
that are rounded one after another; no column gives more than `most`.
-/
def share (widest most : Nat) (excess count : Nat) : List Nat → List Nat
  | [] => []
  | width :: rest =>
      if width = widest then
        let given := min most (Double.roundDiv excess count)
        (width - given) :: share widest most (excess - given) (count - 1) rest
      else width :: share widest most excess count rest

/-- Narrows the widest columns at most down to the next widest ones. -/
def narrowOnce (limit : Nat) (widths : List Nat) : List Nat :=
  let widest := greatest widths
  let next := greatest (widths.filter (· ≠ widest))
  let excess := total widths - limit
  share widest (min excess (widest - next)) excess (widths.count widest) widths

/-- Narrows columns until they fit. Every step takes something from them, so fuel for their whole
width is enough.
-/
def narrow (limit : Nat) : Nat → List Nat → List Nat
  | 0, widths => widths
  | fuel + 1, widths =>
      if total widths ≤ limit then widths else narrow limit fuel (narrowOnce limit widths)

/-- The widths of columns with some cells that take at most `limit` together. -/
def widths (limit : Nat) (columns : List (List (List Char))) : List Nat :=
  let natural := columns.map (naturalWidth limit)
  narrow limit (total natural) natural

end SolidityAtlas.Columns
