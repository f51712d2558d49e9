import SolidityAtlas.CommandLine.Literal
import SolidityAtlas.CommandLine.PictographNames
import SolidityAtlas.CommandLine.Style
import SolidityAtlas.Text.Styled

/-! Marked-up text of messages. Tags in square brackets style what stands between them and leave no
trace in plain output; a bracket behind an odd number of backslashes is no tag. Every closing tag
needs an open one, but a tag may be left open. Names of pictographs between colons are replaced by
the pictograph.
-/

namespace SolidityAtlas.Markup

/-- A part of marked-up text: a character, or a tag with the number of backslashes in front of it
and what stands in its brackets.
-/
inductive Part where
  | char (c : Char)
  | tag (backslashes : Nat) (inside : List Char)
  deriving DecidableEq, Repr

/-- What a tag may start with. -/
def startsTag (c : Char) : Bool :=
  c.isLower || c = '#' || c = '/' || c = '@'

/-- The inside of the tag whose opening bracket stands in front of a text, if there is one, and what
follows its closing bracket.
-/
def tag? : List Char → Option (List Char × List Char)
  | [] => none
  | c :: rest =>
      if startsTag c then
        let inside := rest.takeWhile fun c => c ≠ '[' ∧ c ≠ ']'
        match rest.drop inside.length with
        | ']' :: after => some (c :: inside, after)
        | _ => none
      else none

/-- What follows a tag is shorter than the text it stands in. -/
theorem length_lt_of_tag {text inside after : List Char} (h : tag? text = some (inside, after))
    : after.length < text.length := by
  cases text with
  | nil => simp [tag?] at h
  | cons c rest =>
      simp only [tag?] at h
      split at h
      · split at h
        · rename_i last hd
          simp only [Option.some.injEq, Prod.mk.injEq] at h
          obtain ⟨-, rfl⟩ := h
          have hl := congrArg List.length hd
          simp only [List.length_drop, List.length_cons] at hl ⊢
          omega
        · simp at h
      · simp at h

/-- The tag in front of which a text starts, behind any number of backslashes, and what follows
it.
-/
def leadingTag? (text : List Char) : Option (Nat × List Char × List Char) :=
  let backslashes := text.takeWhile (· = '\\')
  match text.drop backslashes.length with
  | '[' :: inner => (tag? inner).map fun (inside, after) => (backslashes.length, inside, after)
  | _ => none

/-- What follows a leading tag is shorter than the whole. -/
theorem length_lt_of_leadingTag {text inside after : List Char} {backslashes : Nat}
    (h : leadingTag? text = some (backslashes, inside, after))
    : after.length < text.length := by
  simp only [leadingTag?] at h
  split at h
  · rename_i inner hd
    obtain ⟨⟨tagged, following⟩, ht, he⟩ := Option.map_eq_some_iff.mp h
    simp only [Prod.mk.injEq] at he
    obtain ⟨-, -, rfl⟩ := he
    have hi := length_lt_of_tag ht
    have hl := congrArg List.length hd
    simp only [List.length_drop, List.length_cons] at hl
    omega
  · simp at h

/-- The parts of marked-up text. -/
def parts : List Char → List Part
  | [] => []
  | c :: rest =>
      match _h : leadingTag? (c :: rest) with
      | some (backslashes, inside, after) =>
          .tag backslashes inside :: parts after
      | none => .char c :: parts rest
termination_by text => text.length
decreasing_by
  · exact length_lt_of_leadingTag _h
  · exact Nat.lt_succ_self rest.length

/-- A part as it has to be written to be shown as it is. -/
def Part.escaped : Part → List Char
  | .char c => [c]
  | .tag backslashes inside =>
      List.replicate (2 * backslashes + 1) '\\' ++ '[' :: inside ++ [']']

/-- Whether a text ends in exactly one backslash. -/
def endsInBackslash (text : List Char) : Bool :=
  (text.reverse.takeWhile (· = '\\')).length == 1

/-- A text written so that it is shown as it is. A single backslash at the end is doubled, as a tag
may follow it.
-/
def escape (text : String) : String :=
  let written := (parts text.toList).flatMap Part.escaped
  String.ofList (if endsInBackslash written then written ++ ['\\'] else written)

/-- What marked-up text is made of: runs of plain text, and what stands in the brackets of tags. -/
inductive Piece where
  | run (text : List Char)
  | tag (inside : List Char)
  deriving DecidableEq, Repr

/-- The pieces of marked-up text. `run` holds the current run of plain text, last character first.
Of the backslashes in front of a tag every two stand for one, and one that is left over makes plain
text of the tag.
-/
def pieces (run : List Char) : List Part → List Piece
  | [] => [.run run.reverse]
  | .char c :: rest => pieces (c :: run) rest
  | .tag backslashes inside :: rest =>
      .run run.reverse :: .run (List.replicate (backslashes / 2) '\\') ::
        (if backslashes % 2 = 1 then .run ('[' :: inside ++ [']']) else .tag inside) ::
        pieces [] rest

/-- A run with its escaped opening brackets replaced by plain ones. -/
def plainBrackets : List Char → List Char
  | [] => []
  | '\\' :: '[' :: rest => '[' :: plainBrackets rest
  | c :: rest => c :: plainBrackets rest

/-- The pairs of neighbours in a list, without a last item that has none. -/
def pairs {α : Type} : List α → List (α × α)
  | first :: second :: rest => (first, second) :: pairs rest
  | _ => []

/-- The pictographs by name. -/
def pictographs : List (List Char × List Char) :=
  pictographLines.flatMap fun line => pairs (Text.pieces ' ' line.toList)

/-- A text without an ending, if it has it. -/
def dropEnding? (ending : String) (text : List Char) : Option (List Char) :=
  if ending.toList.isSuffixOf text then some (text.take (text.length - ending.length)) else none

/-- The form that a pictograph can be asked for behind its name: what the name ends in, and the
selector behind the pictograph.
-/
def pictographForms : List (String × Char) :=
  [("-emoji", Text.emojiSelector), ("-text", '\ufe0e')]

/-- A name of a pictograph without the ending for its form, and the selector for the form. -/
def nameAndSelector (name : List Char) : List Char × List Char :=
  let found := pictographForms.findSome? fun (ending, selector) =>
    (dropEnding? ending name).map fun name => (name, [selector])
  found.getD (name, [])

/-- A name between colons, or the pictograph of the name. -/
def pictured (name : List Char) : List Char :=
  let (plain, selector) := nameAndSelector name
  match pictographs.lookup (Text.lowered plain) with
  | some pictograph => pictograph ++ selector
  | none => ':' :: name ++ [':']

/-- Replaces the names of pictographs in a run. `name` holds what was read since an open colon, last
character first, if there is one; white space ends a name.
-/
def picture (name : Option (List Char)) : List Char → List Char
  | [] =>
      match name with
      | some name => ':' :: name.reverse
      | none => []
  | c :: rest =>
      match name with
      | none => if c = ':' then picture (some []) rest else c :: picture none rest
      | some name =>
          if c = ':' then pictured name.reverse ++ picture none rest
          else if Text.isSpace c then ':' :: name.reverse ++ c :: picture none rest
          else picture (some (c :: name)) rest

/-- Whether a character moves the cursor or rings the bell; such characters are not printed. -/
def isCursorControl (c : Char) : Bool :=
  c.toNat = 7 || c.toNat = 8 || (11 ≤ c.toNat && c.toNat ≤ 13)

/-- What a run of plain text shows. -/
def shownRun (run : List Char) : List Char :=
  (picture none (plainBrackets run)).filter fun c => !isCursorControl c

/-- A tag: its name, and its parameters behind an equals sign. -/
structure Tag where
  name : List Char
  parameters : Option (List Char)
  deriving DecidableEq, Repr

namespace Tag

/-- The tag that stands in brackets. -/
def ofInside (inside : List Char) : Tag :=
  let name := inside.takeWhile (· ≠ '=')
  match inside.drop name.length with
  | [] => { name := name, parameters := none }
  | _ :: parameters => { name := name, parameters := some parameters }

/-- The style that a tag asks for, if it is no action. -/
def styleText (tag : Tag) : List Char :=
  match tag.parameters with
  | none => tag.name
  | some parameters => tag.name ++ ' ' :: parameters

/-- Whether a tag stands for an action on what it encloses. -/
def isAction (tag : Tag) : Bool :=
  tag.name.head? = some '@'

/-- What may stand in the name of an action. -/
def isActionPart (c : Char) : Bool :=
  Text.isWord c || c = '.'

/-- What the parameters of an action are read as: the parentheses behind its name, or the whole if
they have another form. Parentheses may be left out.
-/
def actionLiteral (parameters : List Char) : List Char :=
  let text := Text.trim parameters
  match text.dropWhile isActionPart with
  | [] => ['(', ')']
  | '(' :: rest =>
      if rest.getLast? = some ')' && !rest.contains '\n' then '(' :: rest else text
  | _ => text

/-- Whether the parameters of a tag mean something where it is closed. -/
def isReadable (tag : Tag) : Bool :=
  match tag.parameters with
  | none | some [] => true
  | some parameters => !tag.isAction || Literal.isLiteral (actionLiteral parameters)

end Tag

/-- A tag that is open, and the position in the shown text where it was opened. -/
structure OpenTag where
  tag : Tag
  start : Nat

namespace OpenTag

/-- The range that a tag styles when it ends at a position without being closed. -/
def spanTo (stop : Nat) (opened : OpenTag) : Span :=
  ⟨opened.start, stop, some opened.tag.styleText⟩

/-- The range that a tag styles when it is closed at a position. An action needs no words. -/
def closedSpanTo (stop : Nat) (opened : OpenTag) : Span :=
  if opened.tag.isAction then ⟨opened.start, stop, none⟩ else opened.spanTo stop

end OpenTag

/-- The tags that are open, the last one first, and the ranges that closed tags style. -/
structure OpenTags where
  tags : List OpenTag
  spans : List Span

namespace OpenTags

/-- Opens a tag at a position. Names are compared in their normal form. -/
def openTag (state : OpenTags) (position : Nat) (tag : Tag) : Outcome OpenTags :=
  (Style.normalForm tag.name).map fun name =>
    { state with tags := { tag := { tag with name := name }, start := position } :: state.tags }

/-- Ends the tag that is to be closed, the other ones being left open. -/
def finish (state : OpenTags) (position : Nat) (opened : OpenTag) (others : List OpenTag)
    : Outcome OpenTags :=
  if opened.tag.isReadable then
    .ok { tags := others, spans := opened.closedSpanTo position :: state.spans }
  else .error .badMarkup

/-- Closes the last tag that is open, or the last one of a name. -/
def close (state : OpenTags) (position : Nat) (name : List Char) : Outcome OpenTags :=
  match Text.trim name with
  | [] =>
      match state.tags with
      | [] => .error .badMarkup
      | opened :: others => state.finish position opened others
  | name => do
      let name ← Style.normalForm name
      let isNamed (opened : OpenTag) : Bool := opened.tag.name = name
      match state.tags.find? isNamed with
      | none => .error .badMarkup
      | some opened => state.finish position opened (state.tags.eraseP isNamed)

/-- The open tags behind a tag at a position, which opens or closes one. -/
def pass (state : OpenTags) (position : Nat) (tag : Tag) : Outcome OpenTags :=
  match tag.name with
  | '/' :: name => state.close position name
  | _ => state.openTag position tag

/-- All styled ranges of a text of some length, those of tags that stay open included. -/
def allSpans (state : OpenTags) (length : Nat) : List Span :=
  state.tags.map (OpenTag.spanTo length) ++ state.spans

end OpenTags

/-- What pieces show from a position on, behind some open tags, and all ranges that are styled. -/
def showPieces (state : OpenTags) (position : Nat) : List Piece → Outcome StyledText
  | [] => .ok { text := [], spans := state.allSpans position }
  | .run run :: rest =>
      let text := shownRun run
      (showPieces state (position + text.length) rest).map fun more =>
        { more with text := text ++ more.text }
  | .tag inside :: rest => do
      showPieces (← state.pass position (.ofInside inside)) position rest

/-- What marked-up text shows, if its tags match. -/
def shown (markup : String) : Outcome StyledText :=
  showPieces { tags := [], spans := [] } 0 (pieces [] (parts markup.toList))

/-- Looks whether lines can be shown in the styles that their ranges ask for. -/
def checkStyles (lines : List StyledText) : Outcome Unit :=
  lines.forM fun line => line.spans.forM fun span => span.style.forM Style.check

/-- The columns of the terminal that messages are made for. -/
def terminalWidth : Nat :=
  1000

/-- Lines, each closed by a line end. -/
def closed (lines : List (List Char)) : String :=
  String.ofList (lines.flatMap (· ++ ['\n']))

/-- A line of a message as it is printed: what does not fit the terminal is left out. -/
def printedLine (line : StyledText) : List Char :=
  (Text.cropSegments terminalWidth line.segments).flatten

/-- The printed form of marked-up text, closed by a line end. -/
def printed (markup : String) : Outcome String := do
  let lines := ((← shown markup).wrap terminalWidth .fold).map (.truncate terminalWidth .fold)
  checkStyles lines
  return closed (lines.map printedLine)

end SolidityAtlas.Markup
