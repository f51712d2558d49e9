import SolidityAtlas.Source.Location
import SolidityAtlas.Proofs.Text.Pieces
import Mathlib.Data.List.Infix
import Mathlib.Data.List.TakeWhile

/-! Offsets of a text as lines and columns. The lines of an excerpt are parts of lines of the whole
text; only the first of them starts behind the column at which the excerpt begins.
-/

namespace SolidityAtlas

/-- The place of an offset: one line for every line feed in front of it, and the characters from the
last line feed on.
-/
def Position.ofOffset (text : List Char) (offset : Nat) : Position :=
  { line := (text.take offset).count '\n' + 1
    column := ((text.take offset).reverse.takeWhile (· ≠ '\n')).length }

/-- The line and column of an offset are those of the end of the text in front of it. -/
theorem Position.ofOffset_of_pieces {text last : List Char} {offset : Nat}
    {begun : List (List Char)} (inFront : Text.pieces '\n' (text.take offset) = begun ++ [last])
    : Position.ofOffset text offset = { line := begun.length + 1, column := last.length } := by
  obtain ⟨count, tail⟩ := Text.length_and_last_of_pieces inFront
  rw [Position.ofOffset, count, tail, List.length_reverse]

/-- In a text of one line the offsets are the columns. -/
theorem Position.ofOffset_of_not_mem {text : List Char} {offset : Nat} (absent : '\n' ∉ text)
    (inside : offset ≤ text.length)
    : Position.ofOffset text offset = { line := 1, column := offset } := by
  have plain : '\n' ∉ text.take offset := fun member => absent (List.mem_of_mem_take member)
  have whole : ∀ c ∈ (text.take offset).reverse, decide (c ≠ '\n') = true := by
    intro c member
    refine decide_eq_true ?_
    rintro rfl
    exact plain (List.mem_reverse.mp member)
  rw [Position.ofOffset, List.count_eq_zero_of_not_mem plain,
    List.takeWhile_eq_self_iff.mpr whole, List.length_reverse, List.length_take_of_le inside]
  rfl

/-- Whether a line of a source text, read from a column on, begins with a piece of text. -/
def PointsAt (source : String) (place : Position) (piece : String) : Prop :=
  ∃ line column : Nat,
    place = { line := line + 1, column := column }
    ∧ ∃ content,
        (Text.lines source)[line]? = some content
        ∧ piece.toList <+: content.toList.drop column

/-- What a line of an excerpt shows from a column on stands in the line of the source that the
excerpt's line is part of. The first line of the excerpt starts at the column of its offset, every
other one at the start of the line.
-/
theorem pointsAt_of_excerpt {source piece : String} {offset number column : Nat}
    {excerpt rest content : List Char} (cut : source.toList.drop offset = excerpt ++ rest)
    (found : (Text.pieces '\n' excerpt)[number]? = some content)
    (shown : piece.toList <+: content.drop column)
    : let start := Position.ofOffset source.toList offset
      PointsAt source
        { line := start.line + number
          column := (if number = 0 then start.column else 0) + column }
        piece := by
  intro start
  obtain ⟨begun, last, inFront⟩ :=
    Text.exists_pieces_eq_append '\n' (source.toList.take offset)
  have begins : start = { line := begun.length + 1, column := last.length } :=
    Position.ofOffset_of_pieces inFront
  obtain ⟨more, onward⟩
      : ∃ more, (Text.pieces '\n' (excerpt ++ rest))[number]? = some (content ++ more) :=
    Text.getElem?_pieces_append_left found
  have line := Text.getElem?_pieces_append_right inFront onward
  rw [← cut, List.take_append_drop] at line
  let indent := if number = 0 then last else []
  refine ⟨begun.length + number, indent.length + column, ?_,
    String.ofList (indent ++ (content ++ more)), ?_, ?_⟩
  · have indented : (if number = 0 then start.column else 0) = (indent.length : Int) := by
      rw [begins]
      split <;> simp [indent, *]
    have lineNumber : start.line = begun.length + 1 := by rw [begins]
    rw [indented, lineNumber, Position.mk.injEq]
    omega
  · rw [Text.lines, List.getElem?_map, line, Option.map_some]
  · have onwards : (indent ++ (content ++ more)).drop (indent.length + column)
        = (content ++ more).drop column := by
      simp
    rw [String.toList_ofList, onwards]
    exact shown.trans ((List.prefix_append content more).drop column)

end SolidityAtlas
