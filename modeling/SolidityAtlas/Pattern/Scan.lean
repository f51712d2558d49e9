import SolidityAtlas.Pattern.Basic

/-! Scanning a text with a pattern: a match at a place, all matches from left to right without
overlap, and whether the text has a match at all.
-/

namespace SolidityAtlas

/-- Where a pattern matched and what it captured. -/
structure Match where
  /-- Offset of the first matched character. -/
  start : Nat
  /-- Offset behind the last matched character. -/
  stop : Nat
  /-- Captures by group number, newest first. -/
  groups : List (Nat × Captured)

/-- The text captured last under a group number. -/
def Match.group? (found : Match) (group : Nat) : Option String :=
  (found.groups.lookup group).map Captured.text

/-- The captured text of a group that takes part in every match of its pattern. -/
def Match.group (found : Match) (group : Nat) : String :=
  (found.group? group).getD ""

namespace Pattern

/-- The preferred match at a cursor. -/
def matchAt (pattern : Pattern) (here : Cursor) : Option Match :=
  (pattern.firstWay here some).map fun stop =>
    { start := here.offset, stop := stop.offset, groups := stop.groups }

/-- The preferred match at the start of a text. -/
def matchStart (pattern : Pattern) (text : String) : Option Match :=
  pattern.matchAt (.start text.toList)

/-- All matches from a place on that start at offset `free` or later; each match moves `free` to
its end, so matches do not overlap.
-/
def findAllFrom (pattern : Pattern) (offset : Nat) (before : Option Char) (free : Nat)
    : List Char → List Match
  | [] =>
      if offset < free then []
      else (pattern.matchAt { offset := offset, before := before, rest := [] }).toList
  | c :: rest =>
      if offset < free then findAllFrom pattern (offset + 1) (some c) free rest
      else
        match pattern.matchAt { offset := offset, before := before, rest := c :: rest } with
        | none => findAllFrom pattern (offset + 1) (some c) free rest
        | some found =>
            found :: findAllFrom pattern (offset + 1) (some c) found.stop rest

/-- All matches in a text, leftmost first and without overlap. -/
def findAll (pattern : Pattern) (text : List Char) : List Match :=
  findAllFrom pattern 0 none 0 text

/-- Whether a pattern matches at some place of the remaining text. -/
def occursFrom (pattern : Pattern) (offset : Nat) (before : Option Char) : List Char → Bool
  | [] => (pattern.matchAt { offset := offset, before := before, rest := [] }).isSome
  | c :: rest =>
      (pattern.matchAt { offset := offset, before := before, rest := c :: rest }).isSome ||
        occursFrom pattern (offset + 1) (some c) rest

/-- Whether a pattern matches anywhere in a text. -/
def occursIn (pattern : Pattern) (text : List Char) : Bool :=
  occursFrom pattern 0 none text

end Pattern

end SolidityAtlas
