import SolidityAtlas.Text.Basic

/-! Text patterns and the ways they match. A pattern matches at a cursor in a preferred order of
ways, and the first way that lets the whole pattern succeed is the match, so alternatives are
ordered and repetitions are greedy or lazy. The first way is found without listing the others.
-/

namespace SolidityAtlas

/-- A pattern over text. Repetition is over single characters only, which is all that lexical scans
need and keeps every pattern terminating.
-/
inductive Pattern where
  /-- Matches nothing, everywhere. -/
  | empty
  /-- One character of a class. -/
  | one (accepts : Char → Bool)
  /-- One pattern and then another. -/
  | seq (first second : Pattern)
  /-- One pattern or else another, tried in this order. -/
  | alt (first second : Pattern)
  /-- As many characters of a class as possible, or fewer. -/
  | many (accepts : Char → Bool)
  /-- As few characters of a class as possible, or more. -/
  | manyLazy (accepts : Char → Bool)
  /-- A pattern whose text is kept under a number. -/
  | capture (group : Nat) (body : Pattern)
  /-- Between a word character and something else, or an end of the text. -/
  | wordEdge
  /-- Not directly behind a character of a class. -/
  | notAfter (accepts : Char → Bool)
  /-- Not in front of text that matches a pattern. -/
  | notAhead (body : Pattern)
  /-- The start of the text. -/
  | textStart
  /-- The end of the text, or in front of a final line feed. -/
  | textEnd

/-- A part of a text: as many characters from a place on. -/
structure Captured where
  rest : List Char
  length : Nat

/-- The text of a part. -/
def Captured.text (captured : Captured) : String :=
  String.ofList (captured.rest.take captured.length)

/-- A place in a text, with the captures made on the way there. -/
structure Cursor where
  /-- Characters in front of the cursor. -/
  offset : Nat
  /-- The character directly in front of the cursor. -/
  before : Option Char
  /-- The text behind the cursor. -/
  rest : List Char
  /-- Captures by group number, newest first. -/
  groups : List (Nat × Captured) := []

namespace Cursor

/-- The cursor in front of a whole text. -/
def start (text : List Char) : Cursor :=
  { offset := 0, before := none, rest := text }

/-- The cursors reached by passing 0, 1, 2, … characters of a class, nearest first. -/
def runsFrom (accepts : Char → Bool) (groups : List (Nat × Captured)) (offset : Nat)
    (before : Option Char) : List Char → List Cursor
  | [] => [⟨offset, before, [], groups⟩]
  | c :: rest =>
      ⟨offset, before, c :: rest, groups⟩ ::
        if accepts c then runsFrom accepts groups (offset + 1) (some c) rest else []

/-- The cursors reached from here by passing characters of a class, nearest first. -/
def runs (accepts : Char → Bool) (here : Cursor) : List Cursor :=
  runsFrom accepts here.groups here.offset here.before here.rest

/-- Whether a word character stands on exactly one side of the cursor. -/
def atWordEdge (here : Cursor) : Bool :=
  here.before.any Text.isWord != here.rest.head?.any Text.isWord

/-- The later cursor with the text from this one up to it captured under a number. -/
def capture (here : Cursor) (group : Nat) (stop : Cursor) : Cursor :=
  { stop with
    groups :=
      (group, { rest := here.rest, length := stop.offset - here.offset }) :: stop.groups }

end Cursor

namespace Pattern

/-- The cursors behind each way to match at a cursor, the preferred way first. -/
def ways : Pattern → Cursor → List Cursor
  | .empty, here => [here]
  | .one accepts, here =>
      match here.rest with
      | [] => []
      | c :: rest =>
          if accepts c then
            [{ offset := here.offset + 1, before := some c, rest := rest, groups := here.groups }]
          else []
  | .seq first second, here => (first.ways here).flatMap second.ways
  | .alt first second, here => first.ways here ++ second.ways here
  | .many accepts, here => (here.runs accepts).reverse
  | .manyLazy accepts, here => here.runs accepts
  | .capture group body, here => (body.ways here).map (here.capture group)
  | .wordEdge, here => if here.atWordEdge then [here] else []
  | .notAfter accepts, here => if here.before.any accepts then [] else [here]
  | .notAhead body, here => if (body.ways here).isEmpty then [here] else []
  | .textStart, here => if here.before.isNone then [here] else []
  | .textEnd, here => if here.rest = [] ∨ here.rest = ['\n'] then [here] else []

/-- What `next` gives for the first way to match at a cursor that it gives anything for. -/
def firstWay : Pattern → Cursor → (Cursor → Option Cursor) → Option Cursor
  | .empty, here, next => next here
  | .one accepts, here, next =>
      match here.rest with
      | [] => none
      | c :: rest =>
          if accepts c then
            next
              { offset := here.offset + 1, before := some c, rest := rest, groups := here.groups }
          else none
  | .seq first second, here, next => first.firstWay here fun stop => second.firstWay stop next
  | .alt first second, here, next =>
      match first.firstWay here next with
      | some found => some found
      | none => second.firstWay here next
  | .many accepts, here, next => (here.runs accepts).reverse.findSome? next
  | .manyLazy accepts, here, next => (here.runs accepts).findSome? next
  | .capture group body, here, next => body.firstWay here fun stop => next (here.capture group stop)
  | .wordEdge, here, next => if here.atWordEdge then next here else none
  | .notAfter accepts, here, next => if here.before.any accepts then none else next here
  | .notAhead body, here, next => if (body.firstWay here some).isNone then next here else none
  | .textStart, here, next => if here.before.isNone then next here else none
  | .textEnd, here, next => if here.rest = [] ∨ here.rest = ['\n'] then next here else none

/-- Looking at one way after another, by induction on the ways. -/
theorem findSome_flatMap {α β γ : Type} (items : List α) (more : α → List β)
    (next : β → Option γ)
    : (items.flatMap more).findSome? next = items.findSome? fun item => (more item).findSome? next
    := by
  induction items with
  | nil => rfl
  | cons item rest ih =>
      rw [List.flatMap_cons, List.findSome?_append, ih, List.findSome?_cons]
      cases (more item).findSome? next <;> rfl

/-- The first way is the first of all ways, by induction on the pattern. -/
theorem firstWay_eq_findSome (pattern : Pattern) (here : Cursor) (next : Cursor → Option Cursor)
    : pattern.firstWay here next = (pattern.ways here).findSome? next := by
  induction pattern generalizing here next with
  | empty => simp [firstWay, ways]
  | one accepts =>
      simp only [firstWay, ways]
      split
      · rfl
      · split <;> simp
  | seq first second hf hs =>
      simp only [firstWay, ways, findSome_flatMap, hf]
      exact congrArg (fun f => (first.ways here).findSome? f) (funext fun stop => hs stop next)
  | alt first second hf hs =>
      simp only [firstWay, ways, List.findSome?_append, hf, hs]
      cases (first.ways here).findSome? next <;> rfl
  | many accepts => rfl
  | manyLazy accepts => rfl
  | capture group body hb => simp [firstWay, ways, hb, List.findSome?_map, Function.comp_def]
  | wordEdge => simp only [firstWay, ways]; split <;> simp
  | notAfter accepts => simp only [firstWay, ways]; split <;> simp
  | notAhead body hb =>
      simp only [firstWay, ways, hb]
      cases body.ways here <;> simp
  | textStart => simp only [firstWay, ways]; split <;> simp
  | textEnd => simp only [firstWay, ways]; split <;> simp

/-- Patterns one after another. -/
def sequence : List Pattern → Pattern
  | [] => .empty
  | [only] => only
  | first :: second :: rest => .seq first (sequence (second :: rest))

/-- The first of several patterns that leads to a match. -/
def oneOf : List Pattern → Pattern
  | [] => .notAhead .empty
  | [only] => only
  | first :: second :: rest => .alt first (oneOf (second :: rest))

/-- One given character. -/
def char (c : Char) : Pattern :=
  .one fun other => other = c

/-- A given text. -/
def literal (text : String) : Pattern :=
  sequence (text.toList.map char)

/-- One or more characters of a class, as many as possible. -/
def oneOrMore (accepts : Char → Bool) : Pattern :=
  .seq (.one accepts) (.many accepts)

/-- One or more characters of a class, as few as possible. -/
def oneOrMoreLazy (accepts : Char → Bool) : Pattern :=
  .seq (.one accepts) (.manyLazy accepts)

/-- A pattern, or nothing where it does not match. -/
def optional (body : Pattern) : Pattern :=
  .alt body .empty

/-- White space, possibly none. -/
def spaces : Pattern :=
  .many Text.isSpace

/-- White space, at least one character. -/
def gap : Pattern :=
  oneOrMore Text.isSpace

end Pattern

end SolidityAtlas
