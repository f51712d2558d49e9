import SolidityAtlas.Analysis.Basic
import SolidityAtlas.Proofs.Outline.Extraction
import SolidityAtlas.Proofs.Resolution.TypeCandidates
import SolidityAtlas.Proofs.SyntaxTree.Innermost

/-! The function around a position is the same by the syntax tree of its file and by the spans in
its outline. Both searches end with the tightest span around the position, and where spans of
functions are disjoint or nested there is only one tightest span; of the functions with that span
both take the first in the outline.
-/

namespace SolidityAtlas

variable {source path : String} {tree node : Json} {file : FileOutline} {line column : Int}

-----------------------------------------------------------------------------------------
-- Trees whose functions can be told apart by their spans
-----------------------------------------------------------------------------------------

/-- A function node within a tree. -/
def FunctionWithin (tree node : Json) : Prop :=
  Within tree node ∧ isFunctionNode node = true

/-- Trees whose functions are all at the top level or parts of contracts there, have spans, and are
apart or one inside the other.
-/
structure FunctionsArranged (tree : Json) : Prop where
  listed : ∀ node, FunctionWithin tree node → ListedFunction tree node
  placed : ∀ node, FunctionWithin tree node → ∃ span, CarriesSpan node span
  nested
    : ∀ first second span other,
        FunctionWithin tree first
        → FunctionWithin tree second
        → CarriesSpan first span
        → CarriesSpan second other
        → span.Nested other

/-- A node in the first line of a text, with the range of its characters and its span. -/
def lineNode (kind name : String) (first last : Nat) (properties : List (String × Json)) : Json :=
  spanned kind name ⟨⟨1, first⟩, ⟨1, last⟩⟩
    (("range", .arr [.int first, .int last]) :: properties)

/-- A function of a contract. -/
def outerFunction : Json :=
  spanned functionKind "outer" ⟨⟨2, 2⟩, ⟨3, 2⟩⟩ []

/-- A function at the top level whose span lies inside the one of `outer`. -/
def innerFunction : Json :=
  spanned functionKind "inner" ⟨⟨2, 4⟩, ⟨2, 9⟩⟩ []

/-- A contract around `outer`. -/
def outerContract : Json :=
  spanned contractKind "C" ⟨⟨1, 0⟩, ⟨4, 0⟩⟩ [("subNodes", .arr [outerFunction])]

/-- The tree of a file with both functions. -/
def nestedTree : Json :=
  .obj [("type", .str "SourceUnit"), ("children", .arr [outerContract, innerFunction])]

/-- The functions in the tree are the two, by the children from the top down. -/
theorem functionWithin_nestedTree (within : FunctionWithin nestedTree node)
    : node = outerFunction ∨ node = innerFunction := by
  obtain ⟨within, function⟩ := within
  have top : children nestedTree = [outerContract, innerFunction] := rfl
  have parts : children outerContract = [outerFunction] := rfl
  have outerLeaf : children outerFunction = [] := rfl
  have innerLeaf : children innerFunction = [] := rfl
  cases within with
  | self => exact absurd function (by decide)
  | under member rest =>
      rw [top, List.mem_cons, List.mem_singleton] at member
      rcases member with rfl | rfl
      · cases rest with
        | self => exact absurd function (by decide)
        | under part deeper =>
            rw [parts, List.mem_singleton] at part
            subst part
            cases deeper with
            | self => exact .inl rfl
            | under noPart =>
                rw [outerLeaf] at noPart
                cases noPart
      · cases rest with
        | self => exact .inr rfl
        | under noPart =>
            rw [innerLeaf] at noPart
            cases noPart

/-- The tree is arranged. -/
theorem functionsArranged_nestedTree : FunctionsArranged nestedTree := by
  have outer : CarriesSpan outerFunction ⟨⟨2, 2⟩, ⟨3, 2⟩⟩ := ⟨rfl, rfl⟩
  have inner : CarriesSpan innerFunction ⟨⟨2, 4⟩, ⟨2, 9⟩⟩ := ⟨rfl, rfl⟩
  have inside : Location.Inside ⟨⟨2, 4⟩, ⟨2, 9⟩⟩ ⟨⟨2, 2⟩, ⟨3, 2⟩⟩ := by
    intro line column
    simp only [Location.contains_iff]
    omega
  refine ⟨?_, ?_, ?_⟩
  · intro node within
    rcases functionWithin_nestedTree within with rfl | rfl
    · exact ⟨by decide, .inr ⟨outerContract, List.mem_cons_self, by decide, List.mem_cons_self⟩⟩
    · exact ⟨by decide, .inl (List.mem_cons_of_mem _ List.mem_cons_self)⟩
  · intro node within
    rcases functionWithin_nestedTree within with rfl | rfl
    · exact ⟨_, outer⟩
    · exact ⟨_, inner⟩
  · intro first second span other firstWithin secondWithin carried otherCarried
    rcases functionWithin_nestedTree firstWithin with rfl | rfl
    all_goals rcases functionWithin_nestedTree secondWithin with rfl | rfl
    all_goals
      first
      | obtain rfl := carried.unique outer
      | obtain rfl := carried.unique inner
    all_goals
      first
      | obtain rfl := otherCarried.unique outer
      | obtain rfl := otherCarried.unique inner
    · exact .inr (.inl fun _ _ => id)
    · exact .inr (.inr inside)
    · exact .inr (.inl inside)
    · exact .inr (.inl fun _ _ => id)

/-- The text that the tree stands for. -/
def nestedText : String :=
  "contract C \x7b\n  function outer() \x7b\n  \x7d\n\x7d"

/-- A function without parameters or a body. -/
def plainFunction (name text : String) (span : Location) (contract : Option String)
    : FunctionDecl :=
  { name := name
    visibility := "default"
    mutability := none
    parameters := []
    returns := []
    modifiers := []
    body := ""
    source := text
    location := span
    path := "c.sol"
    contract := contract }

/-- The outline of the tree. -/
def nestedOutline : FileOutline :=
  { FileOutline.empty "c.sol" with
    contracts :=
      [{ name := "C"
         kind := .contract
         functions :=
           [plainFunction "outer" "function outer() \x7b\n  \x7d" ⟨⟨2, 2⟩, ⟨3, 2⟩⟩ (some "C")]
         structs := []
         enums := []
         stateVariables := []
         bases := []
         location := ⟨⟨1, 0⟩, ⟨4, 0⟩⟩
         path := "c.sol" }]
    functions := [plainFunction "inner" "nction" ⟨⟨2, 4⟩, ⟨2, 9⟩⟩ none] }

/-- The spans of the functions in an outline are the spans of the function nodes of its tree. -/
theorem FunctionsArranged.span_iff (arranged : FunctionsArranged tree)
    (outlined : outlineOf tree source path = .ok file) {span : Location}
    : (∃ function ∈ file.allFunctions, function.location = span)
      ↔ ∃ node, FunctionWithin tree node ∧ CarriesSpan node span := by
  obtain ⟨root, extracted⟩ := outlineOf_spec outlined
  have located {owner node : Json} {function : FunctionDecl} {span : Location}
      (done : extractFunction source path owner node = .ok function)
      (carried : CarriesSpan node span)
      : function.location = span := by
    have placed := (extractFunction_spec done).placed
    rw [declaredAt, carried.locationOf] at placed
    exact (Except.ok.inj placed).symm
  constructor
  · rintro ⟨function, member, rfl⟩
    obtain ⟨owner, node, listed, done⟩ := extracted.listed_of_mem member
    have within : FunctionWithin tree node := ⟨listed.within root, listed.1⟩
    obtain ⟨span, carried⟩ := arranged.placed node within
    exact ⟨node, within, located done carried ▸ carried⟩
  · rintro ⟨node, within, carried⟩
    obtain ⟨function, member, owner, done⟩ := extracted.mem_of_listed (arranged.listed node within)
    exact ⟨function, member, located done carried⟩

-----------------------------------------------------------------------------------------
-- Both searches
-----------------------------------------------------------------------------------------

/-- The search by the spans of an outline is the search for its tightest function. -/
theorem functionBySpan_eq
    : Workspace.functionBySpan file line column
      = file.allFunctions.foldl (tightestBy FunctionDecl.location line column) none := by
  have same : tightestFunction line column = tightestBy FunctionDecl.location line column := by
    funext best function
    cases best <;> rfl
  rw [Workspace.functionBySpan, same]

/-- In an arranged tree both searches find the same function. -/
theorem FunctionsArranged.functionByTree_eq (arranged : FunctionsArranged tree)
    (outlined : outlineOf tree source path = .ok file)
    : Workspace.functionByTree file tree line column
      = .ok (Workspace.functionBySpan file line column) := by
  have isFunction {node : Json}
      : FunctionWithin tree node ↔ Within tree node ∧ kindOf node = some functionKind := by
    rw [FunctionWithin, isFunctionNode, decide_eq_true_iff]
  have spans : SpansInIntegers tree := fun node within function =>
    .inr (arranged.placed node (isFunction.mpr ⟨within, function⟩))
  obtain ⟨spanOf, reads⟩ := spans.reads
  let functions := located spanOf (allOfKind tree functionKind)
  have withSpan {node : Json} {span : Location}
      : (node, span) ∈ functions ↔ FunctionWithin tree node ∧ CarriesSpan node span := by
    rw [reads.mem_located_iff, isFunction]
  have sameSpans (place : Location)
      : (∃ entry ∈ functions, entry.2 = place)
        ↔ ∃ function ∈ file.allFunctions, function.location = place := by
    rw [arranged.span_iff outlined]
    constructor
    · rintro ⟨⟨node, _⟩, member, rfl⟩
      exact ⟨node, withSpan.mp member⟩
    · rintro ⟨node, within, carried⟩
      exact ⟨_, withSpan.mpr ⟨within, carried⟩, rfl⟩
  have nested
      : ∀ first ∈ functions, ∀ second ∈ functions, first.2.Nested second.2 := by
    intro first firstMember second secondMember
    obtain ⟨firstWithin, firstCarried⟩ := withSpan.mp firstMember
    obtain ⟨secondWithin, secondCarried⟩ := withSpan.mp secondMember
    exact arranged.nested _ _ _ _ firstWithin secondWithin firstCarried secondCarried
  rw [Workspace.functionByTree, reads.innermostFunction_eq, functionBySpan_eq,
    ← find?_foldl_tightestBy sameSpans nested]
  cases functions.foldl (tightestBy Prod.snd line column) none <;> rfl

-----------------------------------------------------------------------------------------
-- Analyses
-----------------------------------------------------------------------------------------

/-- Settings that answer what an analysis asks of them. -/
structure Settings.AnswersAnalysis (settings : Settings) : Prop where
  minTypeNameLength : ∃ length, settings.minTypeNameLength = .ok length
  skipInterfaceTypes : ∃ skip, settings.skipInterfaceTypes = .ok skip
  excludeSelfCalls : ∃ exclude, settings.excludeSelfCalls = .ok exclude

namespace Workspace

variable {workspace : Workspace} {settings : Settings} {function : FunctionDecl}

/-- Putting a file that is there without a tree only takes its tree away. -/
theorem insert_none (indexed : workspace.file? file.path = some file)
    : workspace.insert file none
      = { workspace with trees := workspace.trees.erase file.path } := by
  rw [insert, KeyedList.put_of_get? indexed]

/-- An analysis looks at files only. -/
theorem analysisOf_trees {trees : OrderedMap String Json} {current : Option String}
    : analysisOf { workspace with trees := trees } settings function current
      = analysisOf workspace settings function current :=
  rfl

/-- The analysis of a function comes about with settings that answer. -/
theorem exists_analysisOf (answers : settings.AnswersAnalysis) (workspace : Workspace)
    (function : FunctionDecl) (current : Option String)
    : ∃ analysis, analysisOf workspace settings function current = .ok analysis := by
  obtain ⟨exclude, excludeKnown⟩ := answers.excludeSelfCalls
  obtain ⟨names, candidates⟩ :=
    exists_candidateTypes answers.minTypeNameLength answers.skipInterfaceTypes function
  obtain ⟨calls, called⟩ : ∃ calls, callsIn settings function = .ok calls := by
    rw [callsIn, callsMatching, excludedCaller, excludeKnown]
    exact ⟨_, rfl⟩
  rw [analysisOf, typesOf, candidates, callsOf, called]
  exact ⟨_, rfl⟩

/-- An analysis by position is the analysis of the function around it, if there is one. -/
theorem analysisAt_of_functionAt {found : Option FunctionDecl}
    (known : workspace.contains path = true)
    (around : workspace.functionAt path (line + 1) column = .ok found)
    : workspace.analysisAt settings path line column
      = found.elim (.error (.notInFunction path line column)) fun function =>
          workspace.analysisOf settings function (some path) := by
  rw [analysisAt, known, around]
  cases found <;> rfl

/-- In a workspace that has an arranged tree for a file, an analysis by position is the same as in
the workspace that has the file without the tree. With settings that answer it comes about or fails
because the position is in no function.
-/
theorem analysisAt_insert_none (indexed : workspace.file? path = some file)
    (stored : workspace.tree? path = some tree) (outlined : outlineOf tree source path = .ok file)
    (arranged : FunctionsArranged tree) (settings : Settings) (line column : Int)
    : (workspace.insert file none).analysisAt settings path line column
        = workspace.analysisAt settings path line column
      ∧ (settings.AnswersAnalysis
        → (∃ analysis, workspace.analysisAt settings path line column = .ok analysis)
          ∨ workspace.analysisAt settings path line column
            = .error (.notInFunction path line column)) := by
  obtain rfl : file.path = path := (outlineOf_spec outlined).2.stored
  have known : workspace.contains file.path = true := by
    rw [contains, KeyedList.contains_eq_isSome]
    exact Option.isSome_of_eq_some indexed
  have byTree
      : workspace.functionAt file.path (line + 1) column
        = .ok (functionBySpan file (line + 1) column) := by
    rw [functionAt, indexed, stored]
    exact arranged.functionByTree_eq outlined
  have noTree : (workspace.insert file none).tree? file.path = none := by
    rw [tree?, OrderedMap.value?, insert_none indexed, KeyedList.get?_erase_self]
    rfl
  have bySpan
      : (workspace.insert file none).functionAt file.path (line + 1) column
        = .ok (functionBySpan file (line + 1) column) := by
    have still : (workspace.insert file none).file? file.path = some file := by
      rwa [insert_none indexed]
    rw [functionAt, still, noTree]
  have stillKnown : (workspace.insert file none).contains file.path = true := by
    rwa [insert_none indexed]
  rw [analysisAt_of_functionAt known byTree, analysisAt_of_functionAt stillKnown bySpan,
    insert_none indexed]
  constructor
  · simp only [analysisOf_trees]
  · intro answers
    cases functionBySpan file (line + 1) column with
    | none => exact .inr rfl
    | some function => exact .inl (exists_analysisOf answers _ _ _)

/-- With the tree and without it the inner function is analysed where both hold the position. -/
theorem analysisAt_insert_none_nested
    : let workspace := Workspace.ofFiles [nestedOutline] [("c.sol", nestedTree)]
      let settings := SettingTables.default.settings
      outlineOf nestedTree nestedText "c.sol" = .ok nestedOutline
      ∧ (functionBySpan nestedOutline 2 5).map (·.name) = some "inner"
      ∧ (workspace.insert nestedOutline none).analysisAt settings "c.sol" 1 5
        = workspace.analysisAt settings "c.sol" 1 5
      ∧ ((∃ analysis, workspace.analysisAt settings "c.sol" 1 5 = .ok analysis)
        ∨ workspace.analysisAt settings "c.sol" 1 5 = .error (.notInFunction "c.sol" 1 5)) := by
  intro workspace settings
  have outlined : outlineOf nestedTree nestedText "c.sol" = .ok nestedOutline := rfl
  have answers : settings.AnswersAnalysis := ⟨⟨_, rfl⟩, ⟨_, rfl⟩, ⟨_, rfl⟩⟩
  have indexed : workspace.file? "c.sol" = some nestedOutline := rfl
  have stored : workspace.tree? "c.sol" = some nestedTree := rfl
  obtain ⟨same, outcome⟩ :=
    analysisAt_insert_none indexed stored outlined functionsArranged_nestedTree settings 1 5
  exact ⟨outlined, rfl, same, outcome answers⟩

end Workspace

end SolidityAtlas
