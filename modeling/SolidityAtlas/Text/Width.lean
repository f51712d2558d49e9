import SolidityAtlas.Text.WidthRanges
import SolidityAtlas.Text.Basic

/-! Columns of text on a terminal. Characters are shown in clusters: marks go with the character in
front of them, a joiner also takes the character behind it into the cluster, and an emoji selector
widens what it selects. Text is cut between clusters only.
-/

namespace SolidityAtlas.Text

/-- The columns that a character takes on its own. -/
def charWidth (c : Char) : Nat :=
  if c.toNat < 0x20 ∨ (0x7f ≤ c.toNat ∧ c.toNat < 0xa0) then 0
  else if c.toNat < 0x80 then 1
  else if inRanges c.toNat zeroWidthRanges then 0
  else if inRanges c.toNat doubleWidthRanges then 2
  else 1

/-- Joins the characters on both of its sides. -/
def joiner : Char :=
  '\u200d'

/-- Asks for the emoji form of the character in front of it. -/
def emojiSelector : Char :=
  '\ufe0f'

/-- Whether the emoji form of a character is one column wider than the character. -/
def isWidened (c : Char) : Bool :=
  inRanges c.toNat emojiTextRanges

/-- The columns that a text takes behind the character `last`, the last one that took a column and
may still be widened, if there is one. A joiner swallows the character behind it.
-/
def widthAfter (last : Option Char) : List Char → Nat
  | [] => 0
  | [c] =>
      if c = joiner then 0
      else if c = emojiSelector then (if last.any isWidened then 1 else 0)
      else charWidth c
  | c :: next :: rest =>
      if c = joiner then widthAfter last rest
      else if c = emojiSelector then
        (if last.any isWidened then 1 else 0) + widthAfter none (next :: rest)
      else if charWidth c = 0 then widthAfter last (next :: rest)
      else charWidth c + widthAfter (some c) (next :: rest)

/-- The columns that a text takes. -/
def width (text : List Char) : Nat :=
  widthAfter none text

/-- Characters that are shown as one, and the columns they take. -/
structure Cluster where
  text : List Char
  width : Nat
  deriving DecidableEq, Repr

namespace Cluster

/-- A cluster of one character; joiners and selectors take no column of their own. -/
def single (c : Char) : Cluster :=
  { text := [c]
    width := if c = joiner ∨ c = emojiSelector then 0 else charWidth c }

/-- A cluster with more characters behind it, and the columns that these add. -/
def extend (cluster : Cluster) (more : List Char) (added : Nat) : Cluster :=
  { text := cluster.text ++ more, width := cluster.width + added }

/-- The clusters of a text behind an open cluster. `last` is the last character that took a column
and may still be widened, if there is one.
-/
def after (last : Option Char) (open_ : Cluster) : List Char → List Cluster
  | [] => [open_]
  | [c] =>
      if c = joiner then [open_.extend [c] 0]
      else if c = emojiSelector then [open_.extend [c] (if last.any isWidened then 1 else 0)]
      else if charWidth c = 0 then [open_.extend [c] 0]
      else [open_, single c]
  | c :: next :: rest =>
      if c = joiner then after last (open_.extend [c, next] 0) rest
      else if c = emojiSelector then
        if last.any isWidened then after none (open_.extend [c] 1) (next :: rest)
        else after last (open_.extend [c] 0) (next :: rest)
      else if charWidth c = 0 then after last (open_.extend [c] 0) (next :: rest)
      else open_ :: after (some c) (single c) (next :: rest)

end Cluster

/-- The clusters of a text. -/
def clusters : List Char → List Cluster
  | [] => []
  | c :: rest =>
      let first := Cluster.single c
      Cluster.after (if first.width = 0 then none else some c) first rest

/-- The clusters that fit in `limit` columns. Half a cluster is replaced by a blank. -/
def cutClusters (limit : Nat) : List Cluster → List Char
  | [] => []
  | cluster :: rest =>
      if limit = 0 then []
      else if limit < cluster.width then [' ']
      else cluster.text ++ cutClusters (limit - cluster.width) rest

/-- A text brought to a number of columns: cut if it is longer, filled with blanks if it is
shorter.
-/
def toWidth (limit : Nat) (text : List Char) : List Char :=
  if limit = 0 then []
  else if width text ≤ limit then text ++ List.replicate (limit - width text) ' '
  else cutClusters limit (clusters text)

/-- Cuts clusters into parts of at most `limit` columns. `taken` holds the current part and `used`
its columns; a part without columns is left out at the end.
-/
def chopClusters (limit : Nat) (taken : List Char) (used : Nat)
    : List Cluster → List (List Char)
  | [] => if used = 0 then [] else [taken]
  | cluster :: rest =>
      if limit < used + cluster.width then
        taken :: chopClusters limit cluster.text cluster.width rest
      else chopClusters limit (taken ++ cluster.text) (used + cluster.width) rest

/-- The parts of at most `limit` columns that a text is cut into. -/
def chop (limit : Nat) (text : List Char) : List (List Char) :=
  chopClusters limit [] 0 (clusters text)

end SolidityAtlas.Text
