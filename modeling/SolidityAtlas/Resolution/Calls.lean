import SolidityAtlas.Settings
import SolidityAtlas.Vocabulary.Names
import SolidityAtlas.Workspace.Basic

/-! Calls inside the workspace. A function is scanned line by line for the shapes of a call; calls
of built-ins, casts and members of other contracts are left out, and a call is listed once for each
line and expression. Calls resolve by name, the current file first.
-/

namespace SolidityAtlas

/-- A call in a function, with the function it resolves to. -/
structure CallSite where
  name : String
  /-- The callee as it is written: a name, or a name behind `this.`. -/
  expression : String
  arguments : List String
  location : Location
  target : Option FunctionDecl
  deriving DecidableEq, Repr

/-- The texts between top-level commas, up to the parenthesis that closes the call. `depth` counts
the open brackets of any sort, `read` holds the current text, last character first.
-/
def argumentTexts (depth : Nat) (read : List Char) : List Char → List (List Char)
  | [] => [read.reverse]
  | c :: rest =>
      if c = '(' ∨ c = '[' ∨ c = '\x7b' then argumentTexts (depth + 1) (c :: read) rest
      else if c = ')' ∨ c = ']' ∨ c = '\x7d' then
        match depth with
        | 0 => [read.reverse]
        | depth + 1 => argumentTexts depth (c :: read) rest
      else if c = ',' ∧ depth = 0 then read.reverse :: argumentTexts 0 [] rest
      else argumentTexts depth (c :: read) rest

/-- The arguments of a call whose opening parenthesis stands in front of a text, without blank
ones.
-/
def argumentsOf (text : List Char) : List String :=
  (((argumentTexts 0 [] text).map Text.trim).filter fun text => !text.isEmpty).map String.ofList

/-- Whether a line casts to an interface of a name that is called: `IToken(token)`. -/
def isInterfaceCast (name : String) (line : List Char) : Bool :=
  Vocabulary.isInterfaceName name &&
    (Pattern.sequence
      [.literal name, .spaces, .char '(', .oneOrMore (fun c => c ≠ ')'), .char ')']).occursIn line

/-- Whether a line calls a member of an interface cast: `IToken(token).name(`. -/
def callsCastMember (name : String) (line : List Char) : Bool :=
  (Pattern.sequence
    [.char 'I', .one Char.isUpper, .many Text.isIdentifierPart, .char '(',
     .many (fun c => c ≠ ')'), .char ')', .char '.', .literal name, .spaces,
     .char '(']).occursIn line

/-- Whether a line calls a member of a name of a sort: `pool.name(`. -/
def callsMember (lead : Pattern) (name : String) (line : List Char) : Bool :=
  (Pattern.sequence [lead, .char '.', .literal name, .spaces, .char '(']).occursIn line

/-- Whether a line calls a name as a member of another contract, and not of this one. -/
def callsForeignMember (name : String) (line : List Char) : Bool :=
  callsMember (.oneOrMore Text.isWord) name line &&
    !(Pattern.literal ("this." ++ name)).occursIn line &&
    callsMember Vocabulary.lowerName name line

/-- Whether a call is left out: built-ins, keywords and casts by name, calls to other contracts by
the line they stand in.
-/
def isSkippedCall (name : String) (line : List Char) : Bool :=
  Vocabulary.outsideCalls.contains name || Vocabulary.callLikeKeywords.contains name ||
    Vocabulary.castTypes.contains name || isInterfaceCast name line ||
    callsCastMember name line || callsForeignMember name line

/-- The call that a pattern of the call table found in a line. -/
def callAt (key : String) (lineNumber : Int) (line : List Char) (found : Match) : CallSite :=
  let name := found.group 1
  { name := name
    expression := if key = "this" then "this." ++ name else name
    arguments := argumentsOf (line.drop found.stop)
    location :=
      { first := { line := lineNumber, column := found.start }
        last := { line := lineNumber, column := found.stop } }
    target := none }

/-- The calls in a line that patterns find and no rule leaves out, pattern by pattern. -/
def callsInLine (patterns : List (String × Pattern)) (caller : Option String) (lineNumber : Int)
    (line : List Char) : List CallSite :=
  (patterns.flatMap fun (key, pattern) =>
    (pattern.findAll line).map (callAt key lineNumber line)).filter fun call =>
      caller ≠ some call.name && !isSkippedCall call.name line

/-- The calls in the lines of a function from a line number on. -/
def callsInLines (patterns : List (String × Pattern)) (caller : Option String)
    (lineNumber : Int) : List (List Char) → List CallSite
  | [] => []
  | line :: rest =>
      callsInLine patterns caller lineNumber line ++
        callsInLines patterns caller (lineNumber + 1) rest

/-- What tells calls apart: their line and their expression. -/
def CallSite.key (call : CallSite) : Int × String :=
  (call.location.first.line, call.expression)

/-- The function whose calls are left out of lines that patterns are looked for in. The settings are
asked only if there is a match.
-/
def excludedCaller (patterns : List (String × Pattern)) (settings : Settings)
    (function : FunctionDecl) (lines : List (List Char)) : Outcome (Option String) :=
  match settings.excludeSelfCalls with
  | .ok excluded => .ok (if excluded then some function.name else none)
  | .error failure =>
      if lines.any fun line => patterns.any fun entry => entry.2.occursIn line then .error failure
      else .ok none

/-- The calls that a table of patterns finds in a function. -/
def callsMatching (patterns : List (String × Pattern)) (settings : Settings)
    (function : FunctionDecl) : Outcome (List CallSite) := do
  let lines := Text.pieces '\n' function.source.toList
  let caller ← excludedCaller patterns settings function lines
  return distinctBy CallSite.key
    (callsInLines patterns caller function.location.first.line lines)

/-- The calls in a function, in the order of lines and patterns. -/
def callsIn (settings : Settings) (function : FunctionDecl) : Outcome (List CallSite) :=
  callsMatching Vocabulary.callShapes settings function

/-- The first function of a name among files. -/
def resolveFunctionIn (files : List FileOutline) (name : String) : Option FunctionDecl :=
  files.findSome? fun file => file.allFunctions.find? fun function => function.name = name

/-- The function of a name in a workspace; only the part after the last dot counts. -/
def Workspace.resolveFunction (workspace : Workspace) (name : String) : Option FunctionDecl :=
  resolveFunctionIn (workspace.filesFrom none) (Text.unqualified name)

/-- All functions of a name, in the order of files. -/
def Workspace.functionsNamed (workspace : Workspace) (name : String) : List FunctionDecl :=
  (workspace.filesFrom none).flatMap fun file =>
    file.allFunctions.filter fun function => function.name = Text.unqualified name

/-- A call with its target, if files have one. -/
def CallSite.resolveIn (files : List FileOutline) (call : CallSite) : Option CallSite :=
  (resolveFunctionIn files call.name).map fun target => { call with target := some target }

/-- The calls of a function that resolve, the current file searched first. -/
def Workspace.callsOf (workspace : Workspace) (settings : Settings) (function : FunctionDecl)
    (current : Option String) : Outcome (List CallSite) := do
  return (← callsIn settings function).filterMap
    (CallSite.resolveIn (workspace.filesFrom current))

/-- How deep calls go: one level if any of them resolved. -/
def callDepth (calls : List CallSite) : Nat :=
  if calls.any fun call => call.target.isSome then 1 else 0

end SolidityAtlas
