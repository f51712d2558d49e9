import SolidityAtlas.Resolution.Calls
import SolidityAtlas.Proofs.Analysis.FunctionLookup
import SolidityAtlas.Proofs.Outline.Excerpts
import SolidityAtlas.Proofs.Resolution.CallShapes
import SolidityAtlas.Proofs.Text.Lines

/-! Where the calls of a function stand. Each call is found by one of the call shapes in one line of
the function, at the offset in this line where its expression starts. In the file this is the line
that the call reports, and the column too but for calls on the first line of their function: these
are reported as many columns too early as the function itself is indented.
-/

namespace SolidityAtlas

open Outcome Pattern

variable {settings : Settings} {function : FunctionDecl} {calls : List CallSite} {call : CallSite}

-----------------------------------------------------------------------------------------
-- Calls and the matches they come from
-----------------------------------------------------------------------------------------

/-- A call is found in a line by one of the call shapes. -/
def CallSite.FoundIn (call : CallSite) (lineNumber : Int) (line : List Char) : Prop :=
  ∃ key pattern found,
    (key, pattern) ∈ Vocabulary.callShapes
    ∧ found ∈ Pattern.findAll pattern line
    ∧ call = callAt key lineNumber line found

/-- Every call of a function is found in one of its lines. -/
theorem exists_foundIn_of_mem_callsIn (done : callsIn settings function = .ok calls)
    (listed : call ∈ calls)
    : ∃ number line,
        (Text.pieces '\n' function.source.toList)[number]? = some line
        ∧ call.FoundIn (function.location.first.line + (number : Nat)) line := by
  simp only [callsIn, callsMatching, bind_eq_ok_iff, pure_eq_ok_iff] at done
  obtain ⟨caller, -, rfl⟩ := done
  have among := mem_of_mem_distinctBy listed
  obtain ⟨number, line, known, inside⟩ := mem_callsInLines_iff.mp among
  obtain ⟨⟨key, pattern, found, shape, matched, rfl⟩, -⟩ := mem_callsInLine_iff.mp inside
  exact ⟨number, line, known, key, pattern, found, shape, matched, rfl⟩

/-- What is captured behind a test of what stands in front is text at the start of the match. -/
theorem isPrefix_group_of_notAfter {accepts : Char → Bool} {group : Nat} {body : Pattern}
    {patterns : List Pattern} {line : List Char} {found : Match}
    (member
      : found ∈ (sequence (.notAfter accepts :: .capture group body :: patterns)).findAll line)
    (last : group ∉ (sequence patterns).captures)
    : (found.group group).toList <+: line.drop found.start := by
  obtain ⟨stop, way, same⟩ := exists_mem_ways_of_matchAt (matchAt_of_mem_findAll member)
  obtain ⟨here, tested, onward⟩ := mem_ways_sequence_cons.mp way
  simp only [ways, List.mem_ite_nil_left, List.mem_singleton] at tested
  obtain ⟨length, captured⟩ := lookup_of_capture_first (tested.2 ▸ onward) last
  have text : found.group group = String.ofList ((line.drop found.start).take length) := by
    rw [Match.group, Match.group?, congrArg Match.groups same, captured]
    rfl
  rw [text, String.toList_ofList]
  exact List.take_prefix _ _

/-- A given text and what is captured behind it are text at the start of the match. -/
theorem isPrefix_group_of_literal {text : String} {group : Nat} {body : Pattern}
    {patterns : List Pattern} {line : List Char} {found : Match}
    (member
      : found ∈ (sequence (.literal text :: .capture group body :: patterns)).findAll line)
    (last : group ∉ (sequence patterns).captures)
    : (text ++ found.group group).toList <+: line.drop found.start := by
  obtain ⟨stop, way, same⟩ := exists_mem_ways_of_matchAt (matchAt_of_mem_findAll member)
  obtain ⟨here, written, onward⟩ := mem_ways_sequence_cons.mp way
  obtain ⟨rest, -⟩ := rest_of_mem_ways_literal written
  obtain ⟨length, captured⟩ := lookup_of_capture_first onward last
  have behind : found.group group = String.ofList (here.rest.take length) := by
    rw [Match.group, Match.group?, congrArg Match.groups same, captured]
    rfl
  have whole : line.drop found.start = text.toList ++ here.rest := rest
  rw [behind, whole, String.toList_append, String.toList_ofList]
  exact (List.prefix_append_right_inj _).mpr (List.take_prefix _ _)

/-- The expression of a call stands in its line at the column of the call. -/
theorem CallSite.FoundIn.starts {lineNumber : Int} {line : List Char}
    (inLine : call.FoundIn lineNumber line)
    : ∃ column : Nat,
        call.location.first = { line := lineNumber, column := column }
        ∧ call.expression.toList <+: line.drop column := by
  obtain ⟨key, pattern, found, shape, member, rfl⟩ := inLine
  refine ⟨found.start, rfl, ?_⟩
  simp only [Vocabulary.callShapes, List.mem_cons, Prod.mk.injEq, List.not_mem_nil, or_false]
    at shape
  rcases shape with ⟨rfl, rfl⟩ | ⟨rfl, rfl⟩ | ⟨rfl, rfl⟩
  · exact isPrefix_group_of_notAfter member (by decide)
  · exact isPrefix_group_of_literal member (by decide)
  · exact isPrefix_group_of_notAfter member (by decide)

-----------------------------------------------------------------------------------------
-- Functions in their file
-----------------------------------------------------------------------------------------

/-- A node that gives the range of a part of the source and the span of the same part. -/
def CarriesExtent (source : String) (node : Json) : Prop :=
  ∃ first last : Nat,
    first ≤ last
    ∧ last < source.toList.length
    ∧ node.field "range" = .arr [.int first, .int last]
    ∧ CarriesSpan node
        { first := .ofOffset source.toList first, last := .ofOffset source.toList last }

/-- A function stands in a source text at the start of its location. -/
def FunctionDecl.StandsIn (function : FunctionDecl) (source : String) : Prop :=
  ∃ offset rest,
    source.toList.drop offset = function.source.toList ++ rest
    ∧ function.location.first = .ofOffset source.toList offset

/-- A function of a node with a range and a span stands in the source. -/
theorem CarriesExtent.standsIn {source path : String} {owner node : Json}
    (carried : CarriesExtent source node)
    (done : extractFunction source path owner node = .ok function)
    : function.StandsIn source := by
  obtain ⟨first, last, ordered, inside, range, span⟩ := carried
  have extracted := extractFunction_spec done
  have text := extracted.read
  rw [excerpt_of_range range ordered inside] at text
  have placed := extracted.placed
  rw [declaredAt, span.locationOf] at placed
  refine ⟨first, (source.toList.drop first).drop (last + 1 - first), ?_, ?_⟩
  · rw [← Except.ok.inj text, String.toList_ofList, List.take_append_drop]
  · rw [← Except.ok.inj placed]
    rfl

/-- The place in the file of a place that counts the columns of the first line from the start of the
function.
-/
def FunctionDecl.placeInFile (function : FunctionDecl) (place : Position) : Position :=
  let indent := if place.line = function.location.first.line
    then function.location.first.column else 0
  { place with column := indent + place.column }

/-- A call that is found in a line of a function stands in the file at the place that the call
reports, counted from the start of the function.
-/
theorem FunctionDecl.StandsIn.pointsAt {source : String} (stands : function.StandsIn source)
    {number : Nat} {line : List Char}
    (known : (Text.pieces '\n' function.source.toList)[number]? = some line)
    (found : call.FoundIn (function.location.first.line + (number : Nat)) line)
    : PointsAt source (function.placeInFile call.location.first) call.expression := by
  obtain ⟨offset, rest, cut, start⟩ := stands
  obtain ⟨column, place, shown⟩ := found.starts
  have sameLine : function.location.first.line + (number : Int) = function.location.first.line
      ↔ number = 0 := by
    omega
  rw [place, FunctionDecl.placeInFile]
  simp only [sameLine]
  rw [start]
  exact pointsAt_of_excerpt cut known shown

-----------------------------------------------------------------------------------------
-- Calls in their file
-----------------------------------------------------------------------------------------

/-- A contract with an indented function in one line, which calls another one. -/
def oneLineText : String :=
  "contract C \x7b\n    function f() public \x7b g(); \x7d\n\x7d"

/-- The function in the tree of the contract. -/
def oneLineNode : Json :=
  spanned functionKind "f" ⟨⟨2, 4⟩, ⟨2, 31⟩⟩ [("range", .arr [.int 17, .int 44])]

/-- The tree of the contract. -/
def oneLineTree : Json :=
  .obj
    [("type", .str "SourceUnit"),
     ("children",
       .arr [spanned contractKind "C" ⟨⟨1, 0⟩, ⟨3, 0⟩⟩ [("subNodes", .arr [oneLineNode])]])]

/-- The function itself. -/
def oneLineFunction : FunctionDecl :=
  { name := "f"
    visibility := "default"
    mutability := none
    parameters := []
    returns := []
    modifiers := []
    body := ""
    source := "function f() public \x7b g(); \x7d"
    location := ⟨⟨2, 4⟩, ⟨2, 31⟩⟩
    path := "c.sol"
    contract := some "C" }

/-- The call in the function. -/
def oneLineCall : CallSite :=
  { name := "g"
    expression := "g"
    arguments := []
    location := ⟨⟨2, 22⟩, ⟨2, 24⟩⟩
    target := none }

/-- The outline of the contract. -/
def oneLineOutline : FileOutline :=
  { FileOutline.empty "c.sol" with
    contracts :=
      [{ name := "C"
         kind := .contract
         functions := [oneLineFunction]
         structs := []
         enums := []
         stateVariables := []
         bases := []
         location := ⟨⟨1, 0⟩, ⟨3, 0⟩⟩
         path := "c.sol" }] }

/-- The function is the only one in the tree, and it has a range and a span of the same text. -/
theorem carriesExtent_oneLine {node : Json} (listed : ListedFunction oneLineTree node)
    : CarriesExtent oneLineText node := by
  have top
      : itemsOf (oneLineTree.field "children")
        = [spanned contractKind "C" ⟨⟨1, 0⟩, ⟨3, 0⟩⟩ [("subNodes", .arr [oneLineNode])]] :=
    rfl
  obtain ⟨isFunction, direct | ⟨contract, direct, -, part⟩⟩ := listed
  · rw [top, List.mem_singleton] at direct
    subst direct
    exact absurd isFunction (by decide)
  · rw [top, List.mem_singleton] at direct
    subst direct
    obtain rfl := List.mem_singleton.mp part
    exact ⟨17, 44, by decide, by decide, rfl, rfl, rfl⟩

/-- Where all functions of a file have a range and a span of the same text, every call of a function
stands in the file at the place it reports, counted from the start of the function. So the reported
place itself is right but for calls on the first line of an indented function.
-/
theorem callsIn_pointsAt {tree : Json} {source path : String} {file : FileOutline}
    (outlined : outlineOf tree source path = .ok file)
    (carried : ∀ node, ListedFunction tree node → CarriesExtent source node)
    (member : function ∈ file.allFunctions) (done : callsIn settings function = .ok calls)
    (listed : call ∈ calls)
    : PointsAt source (function.placeInFile call.location.first) call.expression
      ∧ (call.location.first.line ≠ function.location.first.line
          ∨ function.location.first.column = 0
        → PointsAt source call.location.first call.expression) := by
  obtain ⟨owner, node, listedNode, extracted⟩ := (outlineOf_spec outlined).2.listed_of_mem member
  have stands := (carried node listedNode).standsIn extracted
  obtain ⟨number, line, known, found⟩ := exists_foundIn_of_mem_callsIn done listed
  have shifted := stands.pointsAt known found
  refine ⟨shifted, ?_⟩
  intro unshifted
  have same : function.placeInFile call.location.first = call.location.first := by
    rw [FunctionDecl.placeInFile]
    rcases unshifted with later | flush
    · simp [later]
    · simp [flush]
  rwa [same] at shifted

/-- The call stands in the second line at the column that it has in its function and the four
columns of the indent.
-/
theorem callsIn_pointsAt_oneLine
    : outlineOf oneLineTree oneLineText "c.sol" = .ok oneLineOutline
      ∧ callsIn SettingTables.default.settings oneLineFunction = .ok [oneLineCall]
      ∧ PointsAt oneLineText { line := 2, column := 4 + 22 } "g" := by
  have outlined : outlineOf oneLineTree oneLineText "c.sol" = .ok oneLineOutline := rfl
  have done : callsIn SettingTables.default.settings oneLineFunction = .ok [oneLineCall] := rfl
  have member : oneLineFunction ∈ oneLineOutline.allFunctions := List.mem_cons_self
  have shifted :=
    (callsIn_pointsAt outlined (fun _ => carriesExtent_oneLine) member done List.mem_cons_self).1
  exact ⟨outlined, done, shifted⟩

/-- A call on the first line of an indented function does not stand in the file at the place that
it reports, although the function has a range and a span of the same text.
-/
theorem callsIn_not_pointsAt
    : ∃ file function calls call,
        outlineOf oneLineTree oneLineText "c.sol" = .ok file
        ∧ (∀ node, ListedFunction oneLineTree node → CarriesExtent oneLineText node)
        ∧ function ∈ file.allFunctions
        ∧ callsIn SettingTables.default.settings function = .ok calls
        ∧ call ∈ calls
        ∧ ¬ PointsAt oneLineText call.location.first call.expression := by
  refine ⟨oneLineOutline, oneLineFunction, [oneLineCall], oneLineCall, rfl,
    fun _ => carriesExtent_oneLine, List.mem_cons_self, rfl, List.mem_cons_self, ?_⟩
  rintro ⟨line, column, place, content, known, shown⟩
  obtain ⟨rfl, rfl⟩ : line = 1 ∧ column = 22 := by
    have lineNumber : (2 : Int) = line + 1 := congrArg Position.line place
    have columnNumber : (22 : Int) = column := congrArg Position.column place
    omega
  have second : (Text.lines oneLineText)[1]? = some "    function f() public \x7b g(); \x7d" := rfl
  obtain rfl := Option.some.inj (known.symm.trans second)
  exact absurd shown (by decide)

end SolidityAtlas
