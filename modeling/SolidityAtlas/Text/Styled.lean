import SolidityAtlas.Text.Wrap

/-! Text with ranges of characters that are in some style. Plain output shows no style, but text is
measured in segments that end where ranges start and end, and only the ranges that are left when the
text is laid out ask for their styles. Whatever cuts a text drops the ranges without characters.
-/

namespace SolidityAtlas

/-- A range of characters in a style, from its first position to the one behind its last character.
The style is given by words, or is one that needs none.
-/
structure Span where
  first : Nat
  stop : Nat
  style : Option (List Char)
  deriving DecidableEq, Repr

namespace Span

/-- The range, `count` characters further on. -/
def shift (count : Nat) (span : Span) : Span :=
  { span with first := span.first + count, stop := span.stop + count }

/-- The characters of a range between two positions, counted from the first of these. -/
def within? (start stop : Nat) (span : Span) : Option Span :=
  if max span.first start < min span.stop stop then
    some
      { span with
        first := max span.first start - start
        stop := min span.stop stop - start }
  else none

/-- What is left of a range when the text ends after `length` characters. -/
def before? (length : Nat) (span : Span) : Option Span :=
  if span.first < length then some { span with stop := min span.stop length } else none

end Span

/-- A text and the ranges in it that are in some style. -/
structure StyledText where
  text : List Char
  spans : List Span
  deriving DecidableEq, Repr

namespace StyledText

/-- The `length` characters from a position on. -/
def part (start length : Nat) (styled : StyledText) : StyledText :=
  { text := (styled.text.drop start).take length
    spans := styled.spans.filterMap (Span.within? start (start + length)) }

/-- Parts of given lengths from a position on, between which `gap` characters are left out. -/
def partsFrom (gap start : Nat) (styled : StyledText) : List Nat → List StyledText
  | [] => []
  | length :: rest =>
      styled.part start length :: styled.partsFrom gap (start + length + gap) rest

/-- The styled forms of the pieces of a text, between which `gap` characters are left out. A text in
one piece is not cut.
-/
def ofPieces (gap : Nat) (styled : StyledText) : List (List Char) → List StyledText
  | [_] => [styled]
  | pieces => styled.partsFrom gap 0 (pieces.map List.length)

/-- Another text with the same ranges, which end where it ends. -/
def withText (text : List Char) (styled : StyledText) : StyledText :=
  { text := text
    spans :=
      if text.length < styled.text.length then
        styled.spans.filterMap (Span.before? text.length)
      else styled.spans }

/-- Two texts in a row. -/
def append (first second : StyledText) : StyledText :=
  { text := first.text ++ second.text
    spans := first.spans ++ second.spans.map (Span.shift first.text.length) }

/-- A part of a line that ends in a tab and starts at a column, with the tab replaced by blanks:
one, and as many as lead to the next stop. Ranges up to the end of the part grow with it.
-/
def fillTab (column : Nat) (styled : StyledText) : StyledText :=
  let text := styled.text.dropLast ++ [' ']
  let fill := Text.fillToStop (column + Text.width text)
  { text := text ++ List.replicate fill ' '
    spans :=
      styled.spans.map fun span =>
        if text.length ≤ span.stop then { span with stop := span.stop + fill } else span }

/-- The parts of a line from a column on, all but the last of which end in a tab. -/
def joinAtStops (column : Nat) : List StyledText → StyledText
  | [] => { text := [], spans := [] }
  | [last] => last
  | part :: rest =>
      let filled := part.fillTab column
      filled.append (joinAtStops (column + Text.width filled.text) rest)

/-- The lengths of pieces, all but the last of which are followed by a tab. -/
def lengthsToTabs : List (List Char) → List Nat
  | [] => []
  | [last] => [last.length]
  | piece :: rest => (piece.length + 1) :: lengthsToTabs rest

/-- A line with its tabs replaced by blanks. -/
def expandTabs (styled : StyledText) : StyledText :=
  match Text.pieces '\t' styled.text with
  | [_] => styled
  | pieces => joinAtStops 0 (styled.partsFrom 0 0 (lengthsToTabs pieces))

/-- The lines of a text that is broken into lines of `limit` columns. A line may still be too long
where it has no place to break.
-/
def wrap (limit : Nat) (overflow : Text.Overflow) (styled : StyledText) : List StyledText :=
  (styled.ofPieces 1 (Text.pieces '\n' styled.text)).flatMap fun line =>
    let line := line.expandTabs
    (line.ofPieces 0 (Text.breakLine limit overflow line.text)).map fun line =>
      line.withText (Text.cropSpace limit line.text)

/-- A line brought to at most `limit` columns. -/
def truncate (limit : Nat) (overflow : Text.Overflow) (styled : StyledText) : StyledText :=
  styled.withText (Text.truncate limit overflow styled.text)

/-- A line brought to `limit` columns: cut if it is longer, filled with blanks if it is shorter. -/
def fill (limit : Nat) (overflow : Text.Overflow) (styled : StyledText) : StyledText :=
  if limit < Text.width styled.text then styled.truncate limit overflow
  else styled.withText (Text.padRight limit styled.text)

/-- A line in the middle of `limit` columns, with blanks on both sides; the left side is the shorter
one.
-/
def centre (limit : Nat) (styled : StyledText) : StyledText :=
  let line := (styled.withText (Text.trimEnd styled.text)).truncate limit .fold
  let left := (limit - Text.width line.text) / 2
  { text := Text.padRight limit (List.replicate left ' ' ++ line.text)
    spans := line.spans.map (Span.shift left) }

/-- The pieces of a text that ends pass through: it is cut behind each character whose position, as
counted from `position`, has an end right behind it.
-/
def segmentsFrom (isEnd : Nat → Bool) (position : Nat) : List Char → List (List Char)
  | [] => []
  | c :: rest =>
      let more := segmentsFrom isEnd (position + 1) rest
      if isEnd (position + 1) then [c] :: more
      else
        match more with
        | [] => [[c]]
        | segment :: others => (c :: segment) :: others

/-- The segments of a line, which end where ranges start and end. -/
def segments (styled : StyledText) : List (List Char) :=
  segmentsFrom
    (fun position =>
      styled.spans.any fun span => span.first = position || span.stop = position)
    0 styled.text

end StyledText

namespace Text

/-- The columns of segments, each measured on its own. -/
def segmentsWidth : List (List Char) → Nat
  | [] => 0
  | segment :: rest => width segment + segmentsWidth rest

/-- Segments of a line cut to a number of columns. -/
def cutSegments (limit : Nat) : List (List Char) → List (List Char)
  | [] => []
  | segment :: rest =>
      if width segment < limit then segment :: cutSegments (limit - width segment) rest
      else [toWidth limit segment]

/-- Segments of a line cut to a number of columns, if they take more. -/
def cropSegments (limit : Nat) (segments : List (List Char)) : List (List Char) :=
  if limit < segmentsWidth segments then cutSegments limit segments else segments

/-- Segments of a line brought to a number of columns by blanks or by a cut. -/
def fitSegments (limit : Nat) (segments : List (List Char)) : List (List Char) :=
  if segmentsWidth segments < limit then
    segments ++ [List.replicate (limit - segmentsWidth segments) ' ']
  else cropSegments limit segments

end Text

end SolidityAtlas
