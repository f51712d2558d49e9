import SolidityAtlas.Outline.Excerpt
import SolidityAtlas.Proofs.SyntaxTree.Spans
import SolidityAtlas.Proofs.Text.Lines

/-! Excerpts of a source text. A node with a range within the source has exactly the characters from
the first offset to the last one as its text. A node that only gives the lines and columns of both
offsets has the same text, put together from the lines of the source.
-/

namespace SolidityAtlas

/-- Bounds within a list are taken as they stand. -/
theorem Text.slice_of_le {α : Type} {items : List α} {start stop : Nat} (ordered : start ≤ stop)
    (inside : stop ≤ items.length)
    : Text.slice start stop items = (items.drop start).take (stop - start) := by
  have clamped {bound : Nat} (within : bound ≤ items.length)
      : Text.clampBound items.length bound = bound := by
    rw [Text.clampBound, if_neg (by omega), Int.toNat_natCast, Nat.min_eq_left within]
  rw [Text.slice, clamped (Nat.le_trans ordered inside), clamped inside, List.drop_take]

/-- The excerpt of a range within the source is the part of the source between its offsets, both
included.
-/
theorem excerpt_of_range {source : String} {node : Json} {first last : Nat}
    (range : node.field "range" = .arr [.int first, .int last]) (ordered : first ≤ last)
    (inside : last < source.toList.length)
    : excerpt source node
      = .ok (String.ofList ((source.toList.drop first).take (last + 1 - first))) := by
  have cut := Text.slice_of_le (Nat.le_succ_of_le ordered) (Nat.succ_le_of_lt inside)
  rw [excerpt, range]
  exact congrArg (fun text => Except.ok (String.ofList text)) cut

-----------------------------------------------------------------------------------------
-- Excerpts by lines
-----------------------------------------------------------------------------------------

/-- The slice of a part that stands between two others is that part. -/
theorem Text.slice_append {α : Type} (front part back : List α)
    : Text.slice front.length (front.length + part.length) (front ++ (part ++ back)) = part := by
  have ordered : front.length ≤ front.length + part.length := Nat.le_add_right _ _
  have inside : front.length + part.length ≤ (front ++ (part ++ back)).length := by simp
  have cut := Text.slice_of_le ordered inside
  rw [Int.natCast_add] at cut
  rw [cut, List.drop_left, Nat.add_sub_cancel_left, List.take_left]

/-- The line behind as many lines as its index says. -/
theorem lineAt_append (begun following : List (List Char)) (line : List Char)
    : lineAt (begun ++ line :: following) begun.length = .ok line := by
  rw [lineAt, Text.signedGet?, if_pos (by omega)]
  simp

section Lines

variable {lines begun middle following : List (List Char)}
  {lead part opening closing tail : List Char} {column : Int}

/-- The text of a span within one line is the part of the line from its first column to its last
one.
-/
theorem spanText_line (shape : lines = begun ++ (lead ++ (part ++ tail)) :: following)
    (ends : column + 1 = lead.length + part.length)
    : spanText lines
        { first := { line := begun.length + 1, column := lead.length }
          last := { line := begun.length + 1, column := column } }
      = .ok part := by
  have inside : ¬ ((begun.length : Int) < 0 ∨ (lines.length : Int) ≤ begun.length) := by
    simp only [shape, List.length_append, List.length_cons]
    omega
  have found : lineAt lines begun.length = .ok (lead ++ (part ++ tail)) :=
    shape ▸ lineAt_append begun following _
  simp only [spanText, Int.add_sub_cancel, if_neg inside, if_true, found, ends]
  exact congrArg Except.ok (Text.slice_append lead part tail)

/-- The text of a span over several lines is put together from the end of the first line, the lines
between, and the start of the last line.
-/
theorem spanText_lines
    (shape : lines = begun ++ (lead ++ opening) :: (middle ++ (closing ++ tail) :: following))
    (ends : column + 1 = closing.length)
    : spanText lines
        { first := { line := begun.length + 1, column := lead.length }
          last := { line := begun.length + 1 + middle.length + 1, column := column } }
      = .ok (['\n'].intercalate (opening :: middle ++ [closing])) := by
  have inside
      : ¬ ((begun.length : Int) < 0
        ∨ (lines.length : Int) ≤ begun.length + 1 + middle.length) := by
    simp only [shape, List.length_append, List.length_cons]
    omega
  have apart : ¬ (begun.length : Int) = begun.length + 1 + middle.length := by omega
  have firstLine : lineAt lines begun.length = .ok (lead ++ opening) :=
    shape ▸ lineAt_append begun _ _
  have lastLine : lineAt lines (begun.length + 1 + middle.length) = .ok (closing ++ tail) := by
    have found := lineAt_append (begun ++ (lead ++ opening) :: middle) following (closing ++ tail)
    simpa [shape, Int.add_assoc, Int.add_comm, Int.add_left_comm] using found
  have head : Text.slice lead.length (lead ++ opening).length (lead ++ opening) = opening := by
    simpa using Text.slice_append lead opening []
  have between
      : Text.slice (begun.length + 1) (begun.length + 1 + middle.length) lines = middle := by
    simpa [shape] using
      Text.slice_append (begun ++ [lead ++ opening]) middle ((closing ++ tail) :: following)
  have last : Text.slice 0 closing.length (closing ++ tail) = closing := by
    simpa using Text.slice_append [] closing tail
  simp only [spanText, Int.add_sub_cancel, if_neg inside, if_neg apart, firstLine, lastLine, ends,
    between]
  simp only [bind, Except.bind, head, last]
  rfl

variable {front : List Char} {c : Char}

/-- The text of a span that ends in its first line, where the lines are those of a text. -/
theorem spanText_pieces_line (back : List Char) (solid : c ≠ '\n')
    (inFront : Text.pieces '\n' front = begun ++ [lead]) (single : '\n' ∉ part)
    : spanText (Text.pieces '\n' (front ++ (part ++ c :: back)))
        { first := { line := begun.length + 1, column := lead.length }
          last := { line := begun.length + 1, column := (lead ++ part).length } }
      = .ok (part ++ [c]) := by
  obtain ⟨tail, following, behind⟩ := Text.exists_pieces_eq_cons '\n' back
  have split : Text.pieces '\n' part = [] ++ [part] := Text.pieces_of_not_mem single
  have onward
      : Text.pieces '\n' (part ++ c :: back) = (part ++ c :: tail) :: following :=
    Text.pieces_append split (Text.pieces_cons_of_ne solid behind)
  have shape
      : Text.pieces '\n' (front ++ (part ++ c :: back))
        = begun ++ (lead ++ ((part ++ [c]) ++ tail)) :: following := by
    simpa using Text.pieces_append inFront onward
  exact spanText_line shape (by simp [Int.add_assoc])

/-- The text of a span that ends in a later line, where the lines are those of a text. -/
theorem spanText_pieces_lines (back : List Char) (solid : c ≠ '\n')
    (inFront : Text.pieces '\n' front = begun ++ [lead])
    (split : Text.pieces '\n' part = (opening :: middle) ++ [closing])
    : spanText (Text.pieces '\n' (front ++ (part ++ c :: back)))
        { first := { line := begun.length + 1, column := lead.length }
          last := { line := begun.length + 1 + middle.length + 1, column := closing.length } }
      = .ok (part ++ [c]) := by
  obtain ⟨tail, following, behind⟩ := Text.exists_pieces_eq_cons '\n' back
  have onward
      : Text.pieces '\n' (part ++ c :: back)
        = opening :: (middle ++ (closing ++ c :: tail) :: following) :=
    Text.pieces_append split (Text.pieces_cons_of_ne solid behind)
  have shape
      : Text.pieces '\n' (front ++ (part ++ c :: back))
        = begun ++ (lead ++ opening) :: (middle ++ ((closing ++ [c]) ++ tail) :: following) := by
    simpa using Text.pieces_append inFront onward
  have parts : Text.pieces '\n' (part ++ [c]) = opening :: middle ++ [closing ++ [c]] :=
    Text.pieces_append split (Text.pieces_cons_of_ne solid rfl)
  have joined := Text.intercalate_pieces '\n' (part ++ [c])
  rw [parts] at joined
  rw [← joined]
  exact spanText_lines shape (by simp)

end Lines

/-- The text of the span between two offsets is the part of the text between them, both included,
if the last one is not a line feed. By cases on the lines of the part in front of its last
character: there is one of them, or the span ends in a later line.
-/
theorem spanText_ofOffset {text : List Char} {first last : Nat} (ordered : first ≤ last)
    (inside : last < text.length) (solid : text[last] ≠ '\n')
    : spanText (Text.pieces '\n' text)
        { first := .ofOffset text first, last := .ofOffset text last }
      = .ok ((text.drop first).take (last + 1 - first)) := by
  let front := text.take first
  let part := (text.drop first).take (last - first)
  let back := text.drop (last + 1)
  have upTo : text.take last = front ++ part := by
    rw [← Nat.add_sub_cancel' ordered, List.take_add]
  have whole : text = front ++ (part ++ text[last] :: back) := by
    rw [← List.append_assoc, ← upTo, List.getElem_cons_drop, List.take_append_drop]
  have cut : (text.drop first).take (last + 1 - first) = part ++ [text[last]] := by
    rw [Nat.succ_sub ordered, List.take_succ_eq_append_getElem (by simp; omega),
      List.getElem_drop]
    simp only [Nat.add_sub_cancel' ordered]
    rfl
  obtain ⟨begun, lead, inFront⟩ := Text.exists_pieces_eq_append '\n' front
  have start : Position.ofOffset text first = { line := begun.length + 1, column := lead.length } :=
    Position.ofOffset_of_pieces inFront
  rw [start, cut]
  by_cases several : '\n' ∈ part
  · obtain ⟨opening, middle, closing, split⟩ := Text.exists_pieces_of_mem several
    have upToLast
        : Text.pieces '\n' (text.take last)
          = (begun ++ (lead ++ opening) :: middle) ++ [closing] := by
      rw [upTo, List.append_assoc]
      exact Text.pieces_append inFront split
    have stop
        : Position.ofOffset text last
          = { line := begun.length + 1 + middle.length + 1, column := closing.length } := by
      rw [Position.ofOffset_of_pieces upToLast, Position.mk.injEq]
      refine ⟨?_, rfl⟩
      simp only [List.length_append, List.length_cons]
      omega
    have found := spanText_pieces_lines back solid inFront split
    rw [← whole] at found
    rw [stop, found]
  · have split : Text.pieces '\n' part = [part] := Text.pieces_of_not_mem several
    have upToLast : Text.pieces '\n' (text.take last) = begun ++ [lead ++ part] :=
      upTo ▸ Text.pieces_append inFront split
    have found := spanText_pieces_line back solid inFront several
    rw [← whole] at found
    rw [Position.ofOffset_of_pieces upToLast, found]

/-- For any two offsets of a source, where the last one is not a line feed, a node that gives them
as its range and a node without a range that gives their lines and columns have the same text: the
characters of the source from the first offset to the last one.
-/
theorem excerpt_span_eq_range {source : String} {first last : Nat} {ranged placed : Json}
    (ordered : first ≤ last) (inside : last < source.toList.length)
    (solid : source.toList[last] ≠ '\n')
    (range : ranged.field "range" = .arr [.int first, .int last])
    (rangeless : ∀ start stop, placed.field "range" ≠ .arr [start, stop])
    (span
      : CarriesSpan placed
          { first := .ofOffset source.toList first, last := .ofOffset source.toList last })
    : let text := String.ofList ((source.toList.drop first).take (last + 1 - first))
      excerpt source ranged = .ok text ∧ excerpt source placed = .ok text := by
  intro text
  refine ⟨excerpt_of_range range ordered inside, ?_⟩
  have byLines := spanText_ofOffset ordered inside solid
  unfold excerpt
  split
  · rename_i start stop bounds
    exact absurd bounds (rangeless start stop)
  · rw [span.locationOf]
    change (do return String.ofList (← spanText _ _) : Outcome String) = .ok text
    rw [byLines]
    rfl

/-- A node that starts at the end of the first line, goes over an empty line and ends with a text
that has no line feed at its end.
-/
theorem excerpt_span_eq_range_emptyLine
    : let source := "a\n\nbc"
      let ranged := Json.obj [("range", .arr [.int 1, .int 4])]
      let placed := Json.obj
        [("loc", .obj
          [("start", .obj [("line", .int 1), ("column", .int 1)]),
           ("end", .obj [("line", .int 3), ("column", .int 1)])])]
      excerpt source ranged = .ok "\n\nbc" ∧ excerpt source placed = .ok "\n\nbc" := by
  intro source ranged placed
  have first : Position.ofOffset source.toList 1 = ⟨1, 1⟩ := by decide
  have last : Position.ofOffset source.toList 4 = ⟨3, 1⟩ := by decide
  have span
      : CarriesSpan placed
          { first := .ofOffset source.toList 1, last := .ofOffset source.toList 4 } := by
    rw [first, last]
    exact ⟨rfl, rfl⟩
  have range : ranged.field "range" = .arr [.int (1 : Nat), .int (4 : Nat)] := rfl
  have rangeless (start stop : Json) : placed.field "range" ≠ .arr [start, stop] := by
    intro same
    cases same
  have text : String.ofList ((source.toList.drop 1).take 4) = "\n\nbc" := by decide
  rw [← text]
  exact excerpt_span_eq_range (by decide) (by decide) (by decide) range rangeless span

end SolidityAtlas
