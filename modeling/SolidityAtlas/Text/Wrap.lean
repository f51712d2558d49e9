import SolidityAtlas.Text.Width

/-! Lines of text on a terminal of some width: where the stops of tabs are, where a line that is too
long is broken, and how many columns a text needs.
-/

namespace SolidityAtlas.Text

/-- The columns between two tab stops. -/
def tabStop : Nat :=
  8

/-- Blanks that lead from a column to the next tab stop, none if there is one. -/
def fillToStop (column : Nat) : Nat :=
  (tabStop - column % tabStop) % tabStop

/-- The words of a line, each with the white space behind it and the first one also with the white
space in front. `current` holds the word so far, last character first, and `started` says whether
there is more than white space in it.
-/
def words (started : Bool) (current : List Char) : List Char → List (List Char)
  | [] => if started then [current.reverse] else []
  | c :: rest =>
      if isSpace c then words started (c :: current) rest
      else if started && current.head?.any isSpace then
        current.reverse :: words true [c] rest
      else words true (c :: current) rest

/-- What becomes of text that is too long for a line. -/
inductive Overflow where
  /-- A word that is too long for any line goes on in the next one. -/
  | fold
  /-- The line is cut, and the cut is marked. -/
  | ellipsis
  deriving DecidableEq, Repr

/-- Lines that are being filled, the last one first, and the columns that are taken of it. -/
structure Wrapped where
  lines : List (List Char)
  used : Nat

namespace Wrapped

/-- Puts text on the last line. -/
def append (wrapped : Wrapped) (text : List Char) : List (List Char) :=
  match wrapped.lines with
  | [] => [text]
  | line :: done => (line ++ text) :: done

/-- Puts text on a new line, unless nothing stands on the last one. -/
def startLine (wrapped : Wrapped) (text : List Char) : Wrapped :=
  { lines :=
      match wrapped.lines with
      | [[]] => [text]
      | lines => text :: lines
    used := width text }

/-- Puts one more word on lines of `limit` columns. -/
def addWord (limit : Nat) (overflow : Overflow) (wrapped : Wrapped) (word : List Char)
    : Wrapped :=
  let needed := width (trimEnd word)
  if wrapped.used + needed ≤ limit then
    { lines := wrapped.append word, used := wrapped.used + width word }
  else if needed ≤ limit then wrapped.startLine word
  else
    match overflow with
    | .fold => (chop limit word).foldl Wrapped.startLine wrapped
    | .ellipsis => wrapped.startLine word

end Wrapped

/-- The lines that a line is broken into between words, so that each takes at most `limit` columns
if it can.
-/
def breakLine (limit : Nat) (overflow : Overflow) (line : List Char) : List (List Char) :=
  match words false [] line with
  | [] => [line]
  | words =>
      let start : Wrapped := { lines := [[]], used := 0 }
      (words.foldl (Wrapped.addWord limit overflow) start).lines.reverse

/-- A line without as much of the white space at its end as it has characters beyond `limit`. -/
def cropSpace (limit : Nat) (line : List Char) : List Char :=
  line.take (max limit (trimEnd line).length)

/-- A line brought to at most `limit` columns. -/
def truncate (limit : Nat) (overflow : Overflow) (line : List Char) : List Char :=
  if width line ≤ limit then line
  else
    match overflow with
    | .fold => toWidth limit line
    | .ellipsis => toWidth (limit - 1) line ++ ['…']

/-- A line with blanks on its right up to `limit` columns. -/
def padRight (limit : Nat) (line : List Char) : List Char :=
  line ++ List.replicate (limit - width line) ' '

/-- The lines of a text that is measured, without line breaks; a final break starts no line. -/
def brokenLines : List Char → List (List Char)
  | [] => []
  | c :: rest =>
      if isLineBreak c then [] :: brokenLines rest
      else
        match brokenLines rest with
        | [] => [[c]]
        | line :: others => (c :: line) :: others

/-- The columns of the longest line of a text. -/
def widest (text : List Char) : Nat :=
  ((brokenLines text).map width).foldl max 0

end SolidityAtlas.Text
