import SolidityAtlas.Text.Basic

/-! File paths with slashes. A path has up to two leading slashes and a list of parts; empty parts
and `.` are dropped when it is read, `..` stays until the path is normalised.
-/

namespace SolidityAtlas

/-- A path as its leading slashes and its parts. -/
structure Path where
  /-- Leading slashes: none for a relative path, one or two for an absolute one. -/
  slashes : Nat
  parts : List String
  deriving DecidableEq, Repr

namespace Path

/-- The leading slashes that count: exactly two stay two, three or more are one. -/
def leadingSlashes (text : List Char) : Nat :=
  match (text.takeWhile (· = '/')).length with
  | 0 => 0
  | 2 => 2
  | _ => 1

/-- Reads a path. -/
def ofText (text : String) : Path :=
  { slashes := leadingSlashes text.toList
    parts := ((Text.pieces '/' text.toList).map String.ofList).filter
      fun part => part ≠ "" ∧ part ≠ "." }

/-- The text of a path; the path without parts is the current directory. -/
def text (path : Path) : String :=
  let written := String.ofList (List.replicate path.slashes '/') ++ "/".intercalate path.parts
  if written = "" then "." else written

/-- The directory that holds what the path names. -/
def parent (path : Path) : Path :=
  { path with parts := path.parts.dropLast }

/-- A path read from inside a directory; an absolute one stands for itself. -/
def join (directory path : Path) : Path :=
  if path.slashes = 0 then { directory with parts := directory.parts ++ path.parts } else path

/-- One more part of a normalised path whose parts are given last first: `..` takes the part before
it away, except where there is none to take.
-/
def normalStep (absolute : Bool) (done : List String) (part : String) : List String :=
  if part ≠ ".." then part :: done
  else
    match done with
    | [] => if absolute then [] else [".."]
    | last :: rest => if last = ".." then ".." :: done else rest

/-- The same path with as few `..` as possible. -/
def normalize (path : Path) : Path :=
  { path with parts := (path.parts.foldl (normalStep (path.slashes ≠ 0)) []).reverse }

/-- Order of paths by their parts, each compared by code points; a path comes before the ones that
continue it.
-/
def lessParts : List String → List String → Bool
  | [], [] => false
  | [], _ :: _ => true
  | _ :: _, [] => false
  | a :: as, b :: bs => if a = b then lessParts as bs else a < b

/-- The part of a name from its last dot on, where the dot is neither its first nor its last
character.
-/
def suffix (name : String) : String :=
  let fromEnd := name.toList.reverse
  let tail := fromEnd.takeWhile (· ≠ '.')
  let stem := fromEnd.drop (tail.length + 1)
  if tail.length = fromEnd.length ∨ tail.isEmpty ∨ stem.isEmpty then ""
  else String.ofList ('.' :: tail.reverse)

end Path

/-- The file that an import names when the importing file lies at `path`. Only a path that starts
with a dot is relative to the importing file; others are left to the build's own rules.
-/
def importTarget? (path imported : String) : Option String :=
  if imported.toList.head? = some '.' then
    some ((Path.ofText path).parent.join (Path.ofText imported)).normalize.text
  else none

end SolidityAtlas
