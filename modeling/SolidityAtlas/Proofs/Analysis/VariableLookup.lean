import SolidityAtlas.Proofs.Analysis.FunctionLookup
import SolidityAtlas.Proofs.Analysis.Requests
import SolidityAtlas.Proofs.Analysis.SymbolLookup
import SolidityAtlas.Proofs.Workspace.FileChanges

/-! The type that a variable of a function is shown with, against the types in the analysis of the
function. The analysis searches the function's own file first; the lookup of a variable asks for the
type in the contract of the function first, and goes through the files in order. Where the workspace
has one type of the name they show the same definition, else it depends on what stands in front.
-/

namespace SolidityAtlas

open Outcome

variable {workspace : Workspace} {name : String} {request : LookupRequest}
  {shown reference : TypeReference} {clicked definition : TypeDefinition}
  {before after : List FileOutline} {file origin : FileOutline}

-----------------------------------------------------------------------------------------
-- First answers
-----------------------------------------------------------------------------------------

namespace Workspace

/-- A type in the analysis of a function is what its name stands for from the function's file. -/
theorem resolveTypeIn_of_mem_analysis {settings : Settings} {function : FunctionDecl}
    {analysis : Analysis} (done : workspace.analysisOf settings function none = .ok analysis)
    (member : reference ∈ analysis.types)
    : resolveTypeIn (workspace.filesFrom (some function.path)) reference.name
      = some reference := by
  simp only [analysisOf, bind_eq_ok_iff] at done
  obtain ⟨types, resolved, calls, -, made⟩ := done
  obtain rfl := pure_eq_ok_iff.mp made
  exact resolveTypeIn_of_mem_typesOf resolved member

/-- What a file of a placed workspace answers names the file. -/
theorem Placed.path_of_findType (placed : workspace.Placed) (listed : file ∈ workspace.files.items)
    {query : TypeQuery} (answer : file.findType query = some reference)
    (defined : reference.definition = some definition)
    : definition.path = file.path := by
  obtain ⟨type, known, -, shows⟩ := exists_of_findType answer
  rw [shows] at defined
  obtain rfl : type = definition := Option.some.inj defined
  exact placed file listed type known

/-- The first answer for a name is a given definition exactly when no file in front of the file of
the definition answers, and this file answers with it.
-/
theorem Placed.resolveType_definition_iff (placed : workspace.Placed)
    (split : workspace.files.items = before ++ origin :: after)
    (stored : definition.path = origin.path)
    (found : workspace.resolveType name = some shown) (defined : shown.definition = some clicked)
    : clicked = definition
      ↔ (∀ earlier ∈ before, ¬ earlier.DefinesType (.ofName name))
        ∧ (origin.findType (.ofName name)).bind (·.definition) = some definition := by
  have paths : (workspace.files.items.map (·.path)).Nodup := workspace.files.nodup
  rw [split, List.map_append, List.map_cons, List.nodup_middle, List.nodup_cons,
    ← List.map_append] at paths
  have elsewhere (other : FileOutline) (listed : other ∈ before ++ after)
      (answer : other.findType (.ofName name) = some shown)
      : clicked ≠ definition := by
    have known : other ∈ workspace.files.items := by
      rw [split]
      exact List.Sublist.subset (by simp) listed
    rintro rfl
    have same := placed.path_of_findType known answer defined
    exact paths.1 (List.mem_map.mpr ⟨other, listed, same.symm.trans stored⟩)
  rw [resolveType, resolveTypeIn, filesFrom, split, List.findSome?_append] at found
  cases first : before.findSome? (·.findType (.ofName name)) with
  | some answer =>
      obtain rfl : answer = shown := by simpa [first] using found
      obtain ⟨earlier, listed, answered⟩ := List.exists_of_findSome?_eq_some first
      refine iff_of_false (elsewhere earlier (List.mem_append_left _ listed) answered) ?_
      rintro ⟨nothing, -⟩
      exact nothing earlier listed (isSome_findType_iff.mp (by simp [answered]))
  | none =>
      have nothing (earlier : FileOutline) (listed : earlier ∈ before)
          : ¬ earlier.DefinesType (.ofName name) := by
        rw [← isSome_findType_iff, List.findSome?_eq_none_iff.mp first earlier listed]
        simp
      rw [first, Option.none_or, List.findSome?_cons] at found
      cases own : origin.findType (.ofName name) with
      | some answer =>
          obtain rfl : answer = shown := by simpa [own] using found
          rw [Option.bind_some, defined, Option.some.injEq]
          exact (and_iff_right nothing).symm
      | none =>
          rw [own] at found
          obtain ⟨later, listed, answered⟩ := List.exists_of_findSome?_eq_some found
          refine iff_of_false (elsewhere later (List.mem_append_right _ listed) answered) ?_
          rintro ⟨-, answer⟩
          cases answer

/-- The same name means the same from a file as in order exactly when, if the file has a type of the
name, no file in front of it has one.
-/
theorem Placed.same_definition_iff (placed : workspace.Placed)
    (split : workspace.files.items = before ++ file :: after) (located : file.path ≠ "")
    (found : workspace.resolveType name = some shown) (defined : shown.definition = some clicked)
    (own : resolveTypeIn (workspace.filesFrom (some file.path)) name = some reference)
    (refers : reference.definition = some definition)
    : clicked = definition
      ↔ (file.DefinesType (.ofName name)
        → ∀ earlier ∈ before, ¬ earlier.DefinesType (.ofName name)) := by
  have listed : file ∈ workspace.files.items := by simp [split]
  have indexed : workspace.file? file.path = some file :=
    KeyedList.get?_eq_some_iff.mpr ⟨listed, rfl⟩
  rw [resolveTypeIn, findSome?_filesFrom located indexed] at own
  cases answer : file.findType (.ofName name) with
  | some first =>
      obtain rfl : first = reference := by simpa [answer] using own
      have here : file.DefinesType (.ofName name) := isSome_findType_iff.mp (by simp [answer])
      have stored := placed.path_of_findType listed answer refers
      rw [placed.resolveType_definition_iff split stored found defined, answer, Option.bind_some]
      simp [refers, here]
  | none =>
      have absent : ¬ file.DefinesType (.ofName name) := by
        rw [← isSome_findType_iff, answer]
        simp
      -- without an answer of its own the file can be left out of the search in order
      rw [answer, Option.none_or, findSome?_filter] at own
      · obtain rfl : shown = reference := Option.some.inj (found.symm.trans own)
        have same : clicked = definition := Option.some.inj (defined.symm.trans refers)
        exact iff_of_true same fun here => absurd here absent
      · intro other known skipped
        have same : workspace.file? file.path = some other :=
          KeyedList.get?_eq_some_iff.mpr ⟨known, by simpa using skipped⟩
        obtain rfl := Option.some.inj (indexed.symm.trans same)
        exact answer

-----------------------------------------------------------------------------------------
-- Lookups of types
-----------------------------------------------------------------------------------------

/-- A bare name is looked up by itself or behind the hinted contract. -/
theorem typesFor_eq (bare : '.' ∉ request.name.toList)
    : ∃ asked, Text.unqualified asked = request.name
        ∧ workspace.typesFor request = workspace.typesOfKind asked request.kind := by
  have plain : Text.unqualified request.name = request.name := Text.unqualified_of_not_mem bare
  unfold typesFor
  cases request.contract.filter (· ≠ "") with
  | none => exact ⟨request.name, plain, rfl⟩
  | some contract =>
      by_cases none : (workspace.typesOfKind (contract ++ "." ++ request.name) request.kind).isEmpty
      · refine ⟨request.name, plain, ?_⟩
        simp [Text.qualifierAndName_of_not_mem bare, none]
      · refine ⟨contract ++ "." ++ request.name, Text.unqualified_append contract bare, ?_⟩
        simp [Text.qualifierAndName_of_not_mem bare, none]

/-- What a name stands for is the first type of the name. -/
theorem resolveType_eq_head? : workspace.resolveType name = (workspace.typesNamed name).head? := by
  rw [resolveType, resolveTypeIn, typesNamed, List.head?_filterMap]

/-- A lookup of a type that succeeds shows what the name of the shown type stands for. -/
theorem exists_of_typeFinding (bare : '.' ∉ request.name.toList) (either : request.kind = .type)
    (success : (workspace.typeFinding request).success = true)
    : ∃ shown, (workspace.typeFinding request).type = some shown
        ∧ workspace.resolveType shown.name = some shown
        ∧ Text.unqualified shown.name = request.name := by
  obtain ⟨asked, last, types⟩ := workspace.typesFor_eq bare
  have all : workspace.typesOfKind asked .type = workspace.typesNamed asked :=
    List.filter_eq_self.mpr fun _ _ => rfl
  rw [either, all] at types
  rw [typeFinding, types] at success ⊢
  cases found : workspace.typesNamed asked with
  | nil => simp [found, Finding.notFound] at success
  | cons first rest =>
      have named : workspace.resolveType asked = some first := by
        rw [resolveType_eq_head?, found, List.head?_cons]
      obtain ⟨definition, shows⟩ := shows_of_resolveTypeIn named
      exact ⟨first, rfl, resolveTypeIn_shown named, shows.shown.trans last⟩

end Workspace

namespace Analyzer

variable {analyzer : Analyzer} {settings : Settings} {function : FunctionDecl}
  {typeName : String} {analysis : Analysis}

/-- A variable with a type is looked up by its type. -/
theorem Remembers.lookupVariable (remembers : Remembers settings workspace analyzer)
    (typed : (variableTypes function.source).value? name = some typeName)
    : (analyzer.lookupVariable name function).1.result
      = workspace.typeFinding
          { kind := .type, name := typeName, contract := function.contract } := by
  rw [Analyzer.lookupVariable, typed]
  simp only [(remembers.lookup _).1]
  rfl

/-- In a workspace that was built a variable of a function is shown with the definition that the
analysis of the function has under the name of its type, if there is only one type of the name. If
both ask for one and the same name, they agree exactly when no file in front of the function's own
one defines a type of the name that the own file defines too. In any case they agree exactly when
the definition in the analysis is the first one, in the order of files, for the name that is shown.
-/
theorem lookupVariable_agrees {parser : Parser} {sources : Sources}
    (built : Workspace.build parser sources = .ok workspace)
    (split : workspace.files.items = before ++ file :: after)
    (listed : function ∈ file.allFunctions) (remembers : Remembers settings workspace analyzer)
    (typed : (variableTypes function.source).value? name = some typeName)
    (done : workspace.analysisOf settings function none = .ok analysis)
    (member : reference ∈ analysis.types) (called : Text.unqualified reference.name = typeName)
    (success : (analyzer.lookupVariable name function).1.result.success = true)
    : ∃ shown clicked definition,
        (analyzer.lookupVariable name function).1.result.type = some shown
        ∧ shown.definition = some clicked
        ∧ reference.definition = some definition
        ∧ ((∀ one ∈ workspace.types, ∀ other ∈ workspace.types,
            one.name = typeName → other.name = typeName → one = other)
          → clicked = definition)
        ∧ (file.path ≠ "" → shown.name = reference.name
          → (clicked = definition
            ↔ (file.DefinesType (.ofName shown.name)
              → ∀ earlier ∈ before, ¬ earlier.DefinesType (.ofName shown.name))))
        ∧ ∃ inFront origin behind,
            workspace.files.items = inFront ++ origin :: behind
            ∧ origin.path = definition.path
            ∧ (clicked = definition
              ↔ (∀ earlier ∈ inFront, ¬ earlier.DefinesType (.ofName shown.name))
                ∧ (origin.findType (.ofName shown.name)).bind (·.definition)
                  = some definition) := by
  have placed : workspace.Placed := Workspace.placed_of_build built
  have indexed : file ∈ workspace.files.items := by simp [split]
  obtain ⟨tree, source, outlined⟩ := Workspace.exists_outlineOf_of_build built indexed
  have stored : function.path = file.path := path_of_mem_allFunctions outlined listed
  have bare : '.' ∉ typeName.toList := called ▸ Text.dot_not_mem_unqualified reference.name
  rw [remembers.lookupVariable typed] at success ⊢
  obtain ⟨shown, type, found, last⟩ := Workspace.exists_of_typeFinding bare rfl success
  obtain ⟨other, otherListed, clicked, clickedKnown, clickedName, defined⟩ :=
    exists_of_resolveTypeIn found
  have own
      : resolveTypeIn (workspace.filesFrom (some file.path)) reference.name = some reference :=
    stored ▸ Workspace.resolveTypeIn_of_mem_analysis done member
  obtain ⟨origin, searched, definition, known, definitionName, refers⟩ :=
    exists_of_resolveTypeIn own
  have originListed := Workspace.mem_of_mem_filesFrom searched
  refine ⟨shown, clicked, definition, type, defined, refers, ?_, ?_, ?_⟩
  · intro unique
    have clickedDefined : clicked ∈ workspace.types :=
      List.mem_flatMap.mpr ⟨other, otherListed, clickedKnown⟩
    have definitionDefined : definition ∈ workspace.types :=
      List.mem_flatMap.mpr ⟨origin, originListed, known⟩
    exact unique clicked clickedDefined definition definitionDefined (clickedName.trans last)
      (definitionName.trans called)
  · intro located same
    rw [← same] at own
    exact placed.same_definition_iff split located found defined own refers
  · obtain ⟨inFront, behind, parts⟩ := List.append_of_mem originListed
    have path := placed origin originListed definition known
    exact ⟨inFront, origin, behind, parts, path.symm,
      placed.resolveType_definition_iff parts path found defined⟩

-----------------------------------------------------------------------------------------
-- Two structs of one name
-----------------------------------------------------------------------------------------

/-- The text of a struct, which has another member in each of two files. -/
def poolStructText (path : String) : String :=
  if path = "a.sol" then "struct Pool \x7b uint a; \x7d" else "struct Pool \x7b uint b; \x7d"

/-- The text of a function with a variable of the type of the struct. -/
def poolFunctionText : String :=
  "function f(Pool memory p) \x7b \x7d"

/-- The texts of the files: both have the struct, and only the second one has the function. -/
def poolSource (path : String) : SourceText :=
  { path := path
    text :=
      if path = "a.sol" then poolStructText path
      else poolStructText path ++ " " ++ poolFunctionText }

/-- The trees of the texts. -/
def poolTree (path : String) : Json :=
  let struct := lineNode "StructDefinition" "Pool" 0 22 []
  let function := lineNode functionKind "f" 24 52 []
  .obj
    [("type", .str "SourceUnit"),
     ("children", .arr (if path = "a.sol" then [struct] else [struct, function]))]

/-- The struct of a file. -/
def poolStruct (path : String) : StructDecl :=
  { name := "Pool"
    members := []
    source := poolStructText path
    location := ⟨⟨1, 0⟩, ⟨1, 22⟩⟩
    path := path
    contract := none }

/-- The function of the second file. -/
def poolFunction : FunctionDecl :=
  { name := "f"
    visibility := "default"
    mutability := none
    parameters := []
    returns := []
    modifiers := []
    body := ""
    source := poolFunctionText
    location := ⟨⟨1, 24⟩, ⟨1, 52⟩⟩
    path := "b.sol"
    contract := none }

/-- The outline of a file. -/
def poolFile (path : String) : FileOutline :=
  { FileOutline.empty path with
    structs := [poolStruct path]
    functions := if path = "a.sol" then [] else [poolFunction] }

/-- The workspace of files in an order. -/
def poolWorkspace (paths : List String) : Workspace :=
  .ofFiles (paths.map poolFile) (paths.map fun path => (path, poolTree path))

/-- The type that the analysis of the function shows, whatever the order of the files. -/
def poolReference : TypeReference :=
  .toDefinition "Pool" (.struct (poolStruct "b.sol"))

/-- The analysis of the function. -/
def poolAnalysis : Analysis :=
  { function := poolFunction
    contract := none
    types := [poolReference]
    calls := []
    stateVariables := [] }

/-- The parser of the texts. -/
def poolParser : Parser :=
  fun source => .ok (poolTree source.path)

/-- Where the file of the function comes first, the variable is shown with the struct of this file,
like in the analysis.
-/
theorem lookupVariable_agrees_ownFileFirst
    : let settings := SettingTables.default.settings
      let workspace := poolWorkspace ["b.sol", "a.sol"]
      let finding := ((ofWorkspace workspace).lookupVariable "p" poolFunction).1.result
      Workspace.build poolParser (.ofList (["b.sol", "a.sol"].map poolSource)) = .ok workspace
      ∧ workspace.files.items = [] ++ poolFile "b.sol" :: [poolFile "a.sol"]
      ∧ poolFunction ∈ (poolFile "b.sol").allFunctions
      ∧ Remembers settings workspace (ofWorkspace workspace)
      ∧ (variableTypes poolFunction.source).value? "p" = some "Pool"
      ∧ workspace.analysisOf settings poolFunction none = .ok poolAnalysis
      ∧ poolReference ∈ poolAnalysis.types
      ∧ Text.unqualified poolReference.name = "Pool"
      ∧ finding.success = true
      ∧ ∃ shown clicked,
          finding.type = some shown
          ∧ shown.definition = some clicked
          ∧ poolReference.definition = some clicked := by
  intro settings workspace finding
  have built
      : Workspace.build poolParser (.ofList (["b.sol", "a.sol"].map poolSource)) = .ok workspace :=
    rfl
  have split : workspace.files.items = [] ++ poolFile "b.sol" :: [poolFile "a.sol"] := rfl
  have listed : poolFunction ∈ (poolFile "b.sol").allFunctions := List.mem_cons_self
  have remembers : Remembers settings workspace (ofWorkspace workspace) := remembers_ofWorkspace
  have typed : (variableTypes poolFunction.source).value? "p" = some "Pool" := rfl
  have done : workspace.analysisOf settings poolFunction none = .ok poolAnalysis := rfl
  have member : poolReference ∈ poolAnalysis.types := List.mem_cons_self
  have called : Text.unqualified poolReference.name = "Pool" := by decide
  have success : finding.success = true := rfl
  obtain ⟨shown, clicked, definition, type, defined, refers, -, sameName, -⟩ :=
    lookupVariable_agrees built split listed remembers typed done member called success
  obtain rfl : poolReference = shown := Option.some.inj type
  obtain rfl := (sameName (by decide) rfl).mpr fun _ _ inFront => nomatch inFront
  exact ⟨built, split, listed, remembers, typed, done, member, called, success, poolReference,
    clicked, type, defined, refers⟩

/-- Where the other file comes first, the variable is shown with the struct of the other file, which
is not the one in the analysis.
-/
theorem lookupVariable_not_agrees
    : ∃ workspace function analysis reference shown,
        Workspace.build poolParser (.ofList (["a.sol", "b.sol"].map poolSource)) = .ok workspace
        ∧ (∃ file ∈ workspace.files.items, function ∈ file.allFunctions)
        ∧ (variableTypes function.source).value? "p" = some "Pool"
        ∧ workspace.analysisOf SettingTables.default.settings function none = .ok analysis
        ∧ reference ∈ analysis.types
        ∧ Text.unqualified reference.name = "Pool"
        ∧ ((ofWorkspace workspace).lookupVariable "p" function).1.result.success = true
        ∧ ((ofWorkspace workspace).lookupVariable "p" function).1.result.type = some shown
        ∧ shown.definition ≠ reference.definition := by
  refine ⟨poolWorkspace ["a.sol", "b.sol"], poolFunction, poolAnalysis, poolReference,
    .toDefinition "Pool" (.struct (poolStruct "a.sol")), rfl, ?_, rfl, rfl, List.mem_cons_self,
    by decide, rfl, rfl, by decide⟩
  exact ⟨poolFile "b.sol", List.mem_cons_of_mem _ List.mem_cons_self, List.mem_cons_self⟩

end Analyzer

end SolidityAtlas
