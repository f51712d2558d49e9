import SolidityAtlas.Proofs.Analysis.VariableLookup
import SolidityAtlas.Proofs.Inheritance.Ancestry

/-! Where the definitions in answers come from. Each search of a workspace finds what a file of the
workspace declares, and nothing else. After any run of edits a file is the outline of its current
text, so a definition in an answer is an excerpt of this text, and no answer has anything that was
replaced or removed.
-/

namespace SolidityAtlas

open Outcome

/-- A workspace declares the definitions in its files. -/
def Workspace.Declares (workspace : Workspace) (definition : Definition) : Prop :=
  ∃ file ∈ workspace.files.items, definition ∈ file.allDefinitions

/-- The definition that a finding shows, if it shows one. -/
def Finding.definitions (finding : Finding) : List Definition :=
  (finding.type.bind (·.definition)).toList.map .type
    ++ finding.function.toList.map .function
    ++ finding.stateVariable.toList.map .stateVariable

/-- The definitions that a function depends on, by the analysis of the function. -/
def Analysis.definitions (analysis : Analysis) : List Definition :=
  (analysis.types.filterMap (·.definition)).map .type
    ++ (analysis.calls.filterMap (·.target)).map .function
    ++ analysis.stateVariables.map .stateVariable

/-- The definitions in an answer. -/
def Analyzer.Answer.definitions : Analyzer.Answer → List Definition
  | .symbol answer => answer.result.definitions
  | .analysis result => result.definitions
  | .implementations found => found.map fun implementation => .function implementation.function

/-- A search of a workspace by name. -/
inductive NameSearch where
  | type (name : String)
  | types (name : String)
  | function (name : String)
  | functions (name : String)
  | stateVariable (name : String) (hint current : Option String)
  | stateVariables (name : String)
  | stateVariablesOf (contract : String)

/-- The definitions that a search finds. -/
def Workspace.search (workspace : Workspace) : NameSearch → List Definition
  | .type name => ((workspace.resolveType name).bind (·.definition)).toList.map .type
  | .types name => ((workspace.typesNamed name).filterMap (·.definition)).map .type
  | .function name => (workspace.resolveFunction name).toList.map .function
  | .functions name => (workspace.functionsNamed name).map .function
  | .stateVariable name hint current =>
      (workspace.resolveVariable name hint current).toList.map .stateVariable
  | .stateVariables name => (workspace.variablesNamed name).map .stateVariable
  | .stateVariablesOf contract => (workspace.variablesOfContract contract).map .stateVariable

variable {workspace : Workspace} {settings : Settings} {file : FileOutline}
  {contract : ContractDecl} {function : FunctionDecl} {definition : Definition}

-----------------------------------------------------------------------------------------
-- Searches by name
-----------------------------------------------------------------------------------------

namespace Workspace

/-- What a contract of a workspace declares the workspace declares. -/
theorem declares_of_mem_contracts (listed : contract ∈ workspace.contracts)
    (inside : definition ∈ contract.allDefinitions)
    : workspace.Declares definition := by
  obtain ⟨file, indexed, declared⟩ := List.mem_flatMap.mp listed
  exact ⟨file, indexed, List.mem_append_left _ (List.mem_flatMap.mpr ⟨contract, declared, inside⟩)⟩

/-- The type that a file answers with is declared there. -/
theorem declares_of_findType {query : TypeQuery} {reference : TypeReference}
    {type : TypeDefinition} (indexed : file ∈ workspace.files.items)
    (answer : file.findType query = some reference) (defined : reference.definition = some type)
    : workspace.Declares (.type type) := by
  obtain ⟨found, known, -, shows⟩ := exists_of_findType answer
  rw [shows] at defined
  obtain rfl : found = type := Option.some.inj defined
  exact ⟨file, indexed, mem_allDefinitions_of_mem_types known⟩

/-- A type that a lookup may mean is the answer of a file. -/
theorem exists_findType_of_mem_typesFor {request : LookupRequest} {reference : TypeReference}
    (member : reference ∈ workspace.typesFor request)
    : ∃ file ∈ workspace.files.items, ∃ query, file.findType query = some reference := by
  obtain ⟨asked, same⟩
      : ∃ asked, workspace.typesFor request = workspace.typesOfKind asked request.kind := by
    unfold typesFor
    cases request.contract.filter (· ≠ "") with
    | none => exact ⟨request.name, rfl⟩
    | some contract =>
        cases (Text.qualifierAndName request.name).1.isNone with
        | false => exact ⟨request.name, rfl⟩
        | true =>
            dsimp only
            rw [if_pos rfl]
            split
            · exact ⟨request.name, rfl⟩
            · exact ⟨contract ++ "." ++ request.name, rfl⟩
  rw [same] at member
  obtain ⟨file, indexed, answer⟩ := List.mem_filterMap.mp (List.mem_filter.mp member).1
  exact ⟨file, indexed, _, answer⟩

/-- A state variable of a contract of the workspace is declared. -/
theorem declares_of_mem_stateVariables {stored : StateVariable}
    (listed : contract ∈ workspace.contracts) (inside : stored ∈ contract.stateVariables)
    : workspace.Declares (.stateVariable stored) :=
  declares_of_mem_contracts listed (stateVariable_mem_definitionsAmong.mpr inside)

/-- A state variable that is found among contracts of the workspace is declared there. -/
theorem declares_of_variableAmong {contracts : List ContractDecl} {name : String}
    {stored : StateVariable} (found : variableAmong contracts name = some stored)
    (known : contracts ⊆ workspace.contracts)
    : workspace.Declares (.stateVariable stored) := by
  obtain ⟨contract, listed, inside⟩ := List.exists_of_findSome?_eq_some found
  exact declares_of_mem_stateVariables (known listed) (List.mem_of_find?_eq_some inside)

/-- The contracts that a search goes through are contracts of the workspace. -/
theorem contracts_filesFrom_subset {current : Option String}
    : (workspace.filesFrom current).flatMap (·.contracts) ⊆ workspace.contracts := by
  intro contract listed
  obtain ⟨file, searched, declared⟩ := List.mem_flatMap.mp listed
  exact List.mem_flatMap.mpr ⟨file, mem_of_mem_filesFrom searched, declared⟩

/-- A state variable that a name stands for is declared. -/
theorem declares_of_resolveVariable {name : String} {hint current : Option String}
    {stored : StateVariable} (found : workspace.resolveVariable name hint current = some stored)
    : workspace.Declares (.stateVariable stored) := by
  rcases Option.or_eq_some_iff.mp found with hinted | ⟨-, anywhere⟩
  · split at hinted
    · refine declares_of_variableAmong hinted fun contract kept => ?_
      exact contracts_filesFrom_subset (List.mem_filter.mp kept).1
    · cases hinted
  · exact declares_of_variableAmong anywhere contracts_filesFrom_subset

/-- A function of a name is declared. -/
theorem declares_of_mem_functionsNamed {name : String}
    (member : function ∈ workspace.functionsNamed name)
    : workspace.Declares (.function function) := by
  obtain ⟨file, indexed, kept⟩ := List.mem_flatMap.mp member
  exact ⟨file, indexed, mem_allDefinitions_of_mem_allFunctions (List.mem_filter.mp kept).1⟩

/-- A function that is found among files of the workspace is declared. -/
theorem declares_of_resolveFunctionIn {files : List FileOutline} {name : String}
    (found : resolveFunctionIn files name = some function) (known : files ⊆ workspace.files.items)
    : workspace.Declares (.function function) := by
  obtain ⟨file, listed, first⟩ := List.exists_of_findSome?_eq_some found
  exact ⟨file, known listed,
    mem_allDefinitions_of_mem_allFunctions (List.mem_of_find?_eq_some first)⟩

/-- What a search by name finds is declared. -/
theorem declares_of_mem_search {search : NameSearch} (member : definition ∈ workspace.search search)
    : workspace.Declares definition := by
  cases search with
  | type name =>
      obtain ⟨type, shown, rfl⟩ := List.mem_map.mp member
      obtain ⟨reference, found, defined⟩ := Option.bind_eq_some_iff.mp (Option.mem_toList.mp shown)
      obtain ⟨file, indexed, answer⟩ := List.exists_of_findSome?_eq_some found
      exact declares_of_findType indexed answer defined
  | types name =>
      obtain ⟨type, shown, rfl⟩ := List.mem_map.mp member
      obtain ⟨reference, found, defined⟩ := List.mem_filterMap.mp shown
      obtain ⟨file, indexed, answer⟩ := List.mem_filterMap.mp found
      exact declares_of_findType indexed answer defined
  | function name =>
      obtain ⟨function, found, rfl⟩ := List.mem_map.mp member
      exact declares_of_resolveFunctionIn (Option.mem_toList.mp found) fun _ => id
  | functions name =>
      obtain ⟨function, found, rfl⟩ := List.mem_map.mp member
      exact declares_of_mem_functionsNamed found
  | stateVariable name hint current =>
      obtain ⟨stored, found, rfl⟩ := List.mem_map.mp member
      exact declares_of_resolveVariable (Option.mem_toList.mp found)
  | stateVariables name =>
      obtain ⟨stored, found, rfl⟩ := List.mem_map.mp member
      obtain ⟨contract, listed, inside⟩ := List.mem_flatMap.mp found
      exact declares_of_mem_stateVariables listed (List.mem_filter.mp inside).1
  | stateVariablesOf owner =>
      obtain ⟨stored, found, rfl⟩ := List.mem_map.mp member
      rw [variablesOfContract] at found
      split at found
      · rename_i first
        exact declares_of_mem_stateVariables (List.mem_of_find?_eq_some first) found
      · cases found

/-- The type that a lookup shows is declared. -/
theorem declares_of_mem_typeFinding {request : LookupRequest}
    (member : definition ∈ (workspace.typeFinding request).definitions)
    : workspace.Declares definition := by
  rw [typeFinding] at member
  split at member
  · cases member
  · rename_i first rest found
    have listed : first ∈ workspace.typesFor request := found ▸ List.mem_cons_self
    obtain ⟨file, indexed, query, answer⟩ := exists_findType_of_mem_typesFor listed
    obtain ⟨type, shown, rfl⟩
        : ∃ type, first.definition = some type ∧ .type type = definition := by
      simpa [Finding.definitions, Finding.found] using member
    exact declares_of_findType indexed answer shown

/-- The function that a lookup shows is declared. -/
theorem declares_of_mem_functionFinding {name : String}
    (member : definition ∈ (workspace.functionFinding name).definitions)
    : workspace.Declares definition := by
  rw [functionFinding] at member
  split at member
  · cases member
  · rename_i first rest found
    have listed : first ∈ workspace.functionsNamed name := found ▸ List.mem_cons_self
    obtain rfl : .function first = definition := by
      simpa [Finding.definitions, Finding.found, eq_comm] using member
    exact declares_of_mem_functionsNamed listed

/-- The state variable that a lookup shows is declared. -/
theorem declares_of_mem_variableFinding {name : String} {hint : Option String}
    (member : definition ∈ (workspace.variableFinding name hint).definitions)
    : workspace.Declares definition := by
  rw [variableFinding] at member
  split at member
  · cases member
  · rename_i first found
    obtain rfl : .stateVariable first = definition := by
      simpa [Finding.definitions, Finding.found, eq_comm] using member
    exact declares_of_resolveVariable found

/-- What a lookup shows is declared. -/
theorem declares_of_mem_lookup {request : LookupRequest}
    (member : definition ∈ (workspace.lookup request).definitions)
    : workspace.Declares definition := by
  rw [lookup] at member
  split at member
  · exact declares_of_mem_functionFinding member
  · exact declares_of_mem_variableFinding member
  all_goals exact declares_of_mem_typeFinding member

-----------------------------------------------------------------------------------------
-- Analyses
-----------------------------------------------------------------------------------------

/-- The contract of a function is one of the contracts of the workspace. -/
theorem mem_contracts_of_contractOf (owned : workspace.contractOf function = some contract)
    : contract ∈ workspace.contracts := by
  obtain ⟨file, found, declared⟩ := Option.bind_eq_some_iff.mp owned
  have indexed := (KeyedList.get?_eq_some_iff.mp found).1
  exact List.mem_flatMap.mpr ⟨file, indexed, List.mem_of_find?_eq_some declared⟩

/-- The state variables that a function mentions are declared. -/
theorem declares_of_mem_variablesOf {stored : StateVariable}
    (member : stored ∈ workspace.variablesOf function)
    : workspace.Declares (.stateVariable stored) := by
  rw [variablesOf] at member
  split at member
  · rename_i contract owned
    obtain ⟨name, -, last⟩ := List.mem_filterMap.mp member
    have inside : stored ∈ contract.stateVariables :=
      List.mem_reverse.mp (List.mem_of_find?_eq_some last)
    exact declares_of_mem_stateVariables (mem_contracts_of_contractOf owned) inside
  · cases member

/-- The analysis of a function is about this function. -/
theorem function_of_analysisOf {path : Option String} {analysis : Analysis}
    (done : workspace.analysisOf settings function path = .ok analysis)
    : analysis.function = function := by
  simp only [analysisOf, bind_eq_ok_iff] at done
  obtain ⟨types, -, calls, -, made⟩ := done
  rw [← pure_eq_ok_iff.mp made]

/-- What a function depends on is declared, wherever the function itself comes from. -/
theorem declares_of_mem_analysisOf {path : Option String} {analysis : Analysis}
    (done : workspace.analysisOf settings function path = .ok analysis)
    (member : definition ∈ analysis.definitions)
    : workspace.Declares definition := by
  simp only [analysisOf, bind_eq_ok_iff] at done
  obtain ⟨types, resolved, calls, targets, made⟩ := done
  obtain rfl := pure_eq_ok_iff.mp made
  simp only [Analysis.definitions, List.mem_append, List.mem_map, List.mem_filterMap, or_assoc]
    at member
  rcases member with ⟨type, ⟨reference, listed, defined⟩, rfl⟩
    | ⟨target, ⟨call, listed, known⟩, rfl⟩ | ⟨stored, listed, rfl⟩
  · obtain ⟨file, searched, answer⟩ :=
      List.exists_of_findSome?_eq_some (resolveTypeIn_of_mem_typesOf resolved listed)
    exact declares_of_findType (mem_of_mem_filesFrom searched) answer defined
  · obtain ⟨other, same, found⟩ := callsOf_spec targets call listed
    obtain rfl : other = target := Option.some.inj (same.symm.trans known)
    exact declares_of_resolveFunctionIn found fun _ => mem_of_mem_filesFrom
  · exact declares_of_mem_variablesOf listed

/-- The innermost function around a position is a function of the file. -/
theorem mem_allFunctions_of_functionAt {path : String} {line column : Int}
    (indexed : workspace.file? path = some file)
    (around : workspace.functionAt path line column = .ok (some function))
    : function ∈ file.allFunctions := by
  rw [functionAt, indexed] at around
  dsimp only at around
  split at around
  · rw [functionByTree, bind_eq_ok_iff] at around
    obtain ⟨innermost, -, found⟩ := around
    split at found
    · cases pure_eq_ok_iff.mp found
    · exact List.mem_of_find?_eq_some (pure_eq_ok_iff.mp found)
  · have best := foldl_tightestBy FunctionDecl.location line column file.allFunctions
    rw [← functionBySpan_eq, Except.ok.inj around] at best
    exact best.member

/-- The function that is analysed at a position is declared. -/
theorem declares_of_analysisAt {path : String} {line column : Int} {analysis : Analysis}
    (done : workspace.analysisAt settings path line column = .ok analysis)
    : workspace.Declares (.function analysis.function)
      ∧ ∀ definition ∈ analysis.definitions, workspace.Declares definition := by
  rw [analysisAt] at done
  split at done
  · cases done
  · rename_i known
    rw [bind_eq_ok_iff] at done
    obtain ⟨found, around, done⟩ := done
    split at done
    · cases done
    · rename_i function
      have indexed : (workspace.file? path).isSome := by
        rw [← contains_eq_isSome]
        simpa using known
      obtain ⟨file, stored⟩ := Option.isSome_iff_exists.mp indexed
      have member := mem_allFunctions_of_functionAt stored around
      refine ⟨?_, fun definition inside => declares_of_mem_analysisOf done inside⟩
      rw [function_of_analysisOf done]
      exact ⟨file, (KeyedList.get?_eq_some_iff.mp stored).1,
        mem_allDefinitions_of_mem_allFunctions member⟩

end Workspace

-----------------------------------------------------------------------------------------
-- Implementations
-----------------------------------------------------------------------------------------

namespace InheritanceGraph

variable {graph : InheritanceGraph} {implementation : Implementation} {base method : String}

/-- The contracts of the graph of a workspace are contracts of the workspace. -/
theorem mem_contracts_of_ofWorkspace (built : ofWorkspace settings workspace = .ok graph)
    (member : contract ∈ graph.contracts.items)
    : contract ∈ workspace.contracts := by
  unfold ofWorkspace at built
  split at built
  · obtain rfl := Except.ok.inj built
    cases member
  · rename_i contracts _
    obtain ⟨depth, -, rfl⟩ := map_eq_ok_iff.mp built
    exact KeyedList.mem_of_mem_ofList member

/-- What a contract of a graph declares the workspace of the graph declares. -/
theorem declares_of_mem_functions (built : ofWorkspace settings workspace = .ok graph)
    (member : contract ∈ graph.contracts.items) (inside : function ∈ contract.functions)
    : workspace.Declares (.function function) :=
  Workspace.declares_of_mem_contracts (mem_contracts_of_ofWorkspace built member)
    (function_mem_definitionsAmong.mpr inside)

/-- The function of an implementation is declared. -/
theorem declares_of_mem_implementations (built : ofWorkspace settings workspace = .ok graph)
    (member : implementation ∈ graph.implementations base method)
    : workspace.Declares (.function implementation.function) := by
  obtain ⟨implementer, -, kept⟩ := List.mem_filterMap.mp member
  obtain ⟨-, -, found⟩ := Option.bind_eq_some_iff.mp kept
  obtain ⟨name, -, first⟩ := List.exists_of_findSome?_eq_some found
  obtain ⟨contract, concrete, body⟩ := Option.bind_eq_some_iff.mp first
  obtain ⟨function, implements, made⟩ := Option.bind_eq_some_iff.mp body
  obtain rfl := Option.some.inj made
  obtain ⟨known, -⟩ := Option.filter_eq_some_iff.mp concrete
  exact declares_of_mem_functions built (KeyedList.get?_eq_some_iff.mp known).1
    (List.mem_of_find?_eq_some implements)

/-- The functions that contracts give a method are declared. -/
theorem declares_of_mem_withMethod {parameters : Option Int}
    (built : ofWorkspace settings workspace = .ok graph)
    (member : implementation ∈ graph.withMethod method parameters)
    : workspace.Declares (.function implementation.function) := by
  obtain ⟨contract, listed, inside⟩ := List.mem_flatMap.mp member
  obtain ⟨function, kept, rfl⟩ := List.mem_map.mp inside
  exact declares_of_mem_functions built (List.mem_filter.mp listed).1 (List.mem_filter.mp kept).1

end InheritanceGraph

-----------------------------------------------------------------------------------------
-- Answers
-----------------------------------------------------------------------------------------

/-- All definitions in an answer of a new analyzer are declared in its workspace. -/
theorem Analyzer.declares_of_respond {request : Request} {answer : Answer}
    (answered : ((ofWorkspace workspace).respond settings request).1 = .ok answer)
    (member : definition ∈ answer.definitions)
    : workspace.Declares definition := by
  cases request with
  | lookup kind name contract =>
      rw [respond] at answered
      split at answered
      · cases answered
      · obtain rfl := Except.ok.inj answered
        exact Workspace.declares_of_mem_lookup member
  | lookupVariable name function =>
      obtain rfl := Except.ok.inj answered
      change definition
        ∈ ((ofWorkspace workspace).lookupVariable name function).1.result.definitions at member
      rw [lookupVariable] at member
      split at member
      · cases member
      · exact Workspace.declares_of_mem_lookup member
  | analyze path line column =>
      obtain ⟨analysis, done, rfl⟩ := map_eq_ok_iff.mp answered
      exact (Workspace.declares_of_analysisAt done).2 definition member
  | analyzeFunction function path =>
      obtain ⟨analysis, done, rfl⟩ := map_eq_ok_iff.mp answered
      exact Workspace.declares_of_mem_analysisOf done member
  | findImplementations base method =>
      rw [respond] at answered
      split at answered
      · cases answered
      · rename_i graph next known
        obtain rfl := Except.ok.inj answered
        obtain ⟨implementation, listed, rfl⟩ := List.mem_map.mp member
        obtain ⟨other, built, same⟩ := bind_eq_ok_iff.mp known
        obtain rfl := (Prod.mk.inj (pure_eq_ok_iff.mp same)).1
        exact InheritanceGraph.declares_of_mem_implementations built listed

-----------------------------------------------------------------------------------------
-- Revisions
-----------------------------------------------------------------------------------------

namespace Revision

variable {parser : Parser} {revision : Revision}

/-- A revision backs a definition when the definition stands in the file that it names, in a
contract of the name that it gives or at file level if it gives none, and it comes from a node that
stands there too in the tree of the current text. So its source is the excerpt of this text at the
node.
-/
def Backs (parser : Parser) (revision : Revision) (definition : Definition) : Prop :=
  ∃ source tree file node,
    revision.sources.get? definition.path = some source
    ∧ parser source = .ok tree
    ∧ revision.workspace.file? definition.path = some file
    ∧ outlineOf tree source.text definition.path = .ok file
    ∧ file.Holds definition
    ∧ DefinitionNode tree definition.contract node
    ∧ definition.ExtractedFrom source.text definition.path definition.contract node

/-- A current revision backs the definitions that its workspace declares. -/
theorem IsCurrent.backs (current : revision.IsCurrent parser)
    (declares : revision.workspace.Declares definition)
    : revision.Backs parser definition := by
  obtain ⟨parsed, stands⟩ := current
  obtain ⟨file, indexed, member⟩ := declares
  have found : revision.workspace.file? file.path = some file :=
    KeyedList.get?_eq_some_iff.mpr ⟨indexed, rfl⟩
  rcases stands.lookup file.path with ⟨noFile, -⟩ | ⟨source, tree, other, known, read, hasFile, -⟩
  · rw [found] at noFile
    cases noFile
  · obtain rfl : file = other := Option.some.inj (found.symm.trans hasFile)
    obtain ⟨accepted, outlined⟩ := SourceText.parse_eq_ok_iff.mp read
    have located : source.path = file.path := (KeyedList.get?_eq_some_iff.mp known).2
    rw [located] at outlined
    obtain ⟨holds, node, stands, taken⟩ := exists_node_of_mem_allDefinitions outlined member
    have stored : definition.path = file.path := taken.stored
    refine ⟨source, tree, file, node, ?_⟩
    rw [stored]
    exact ⟨known, accepted, found, outlined, holds, stands, taken⟩

/-- After any run of edits the current revision backs every definition in an answer: what an
analyzer answers, whatever it was asked before, the function that is analysed at a position, what
searches by name find, and the functions that contracts give a method.
-/
theorem answers_backed {sources : Sources} (built : Workspace.build parser sources = .ok workspace)
    (edits : List Edit)
    : let final := run parser { sources := sources, workspace := workspace } edits
      (∀ settings requests answer,
        .ok answer ∈ ((Analyzer.ofWorkspace final.workspace).run settings requests).1
        → ∀ definition ∈ answer.definitions, final.Backs parser definition)
      ∧ (∀ settings path line column analysis,
          final.workspace.analysisAt settings path line column = .ok analysis
          → final.Backs parser (.function analysis.function))
      ∧ (∀ search, ∀ definition ∈ final.workspace.search search, final.Backs parser definition)
      ∧ ∀ settings graph method parameters,
          InheritanceGraph.ofWorkspace settings final.workspace = .ok graph
          → ∀ implementation ∈ graph.withMethod method parameters,
              final.Backs parser (.function implementation.function) := by
  intro final
  have start : IsCurrent parser { sources := sources, workspace := workspace } :=
    Workspace.build_eq_ok_iff.mp built
  have current : final.IsCurrent parser := start.run edits
  refine ⟨?_, ?_, ?_, ?_⟩
  · intro settings requests answer answered definition member
    rw [(Analyzer.remembers_ofWorkspace.run requests).1] at answered
    obtain ⟨request, -, alone⟩ := List.mem_map.mp answered
    exact current.backs (Analyzer.declares_of_respond alone member)
  · intro settings path line column analysis done
    exact current.backs (Workspace.declares_of_analysisAt done).1
  · intro search definition member
    exact current.backs (Workspace.declares_of_mem_search member)
  · intro settings graph method parameters built implementation member
    exact current.backs (InheritanceGraph.declares_of_mem_withMethod built member)

/-- Another text for the struct of a file. -/
def renewedStruct : StructDecl :=
  { Analyzer.poolStruct "b.sol" with source := "struct Pool \x7b bool b; \x7d" }

/-- The file with the other text. -/
def renewedSource : SourceText :=
  { path := "b.sol", text := renewedStruct.source ++ " " ++ Analyzer.poolFunctionText }

/-- The outline of the file with the other text. -/
def renewedFile : FileOutline :=
  { Analyzer.poolFile "b.sol" with structs := [renewedStruct] }

/-- The analysis of the function that uses the struct. -/
def renewedAnalysis : Analysis :=
  { Analyzer.poolAnalysis with types := [.toDefinition "Pool" (.struct renewedStruct)] }

/-- One of two files with a struct of the same name gets a new text and the other one is removed.
Then the function is analysed with the struct as it stands in the new text.
-/
theorem answers_backed_renewed
    : let sources : Sources := .ofList (["a.sol", "b.sol"].map Analyzer.poolSource)
      let workspace := Analyzer.poolWorkspace ["a.sol", "b.sol"]
      let final :=
        run Analyzer.poolParser { sources := sources, workspace := workspace }
          [.reindex renewedSource, .remove "a.sol"]
      Workspace.build Analyzer.poolParser sources = .ok workspace
      ∧ .ok (.analysis renewedAnalysis)
        ∈ ((Analyzer.ofWorkspace final.workspace).run SettingTables.default.settings
            [.analyzeFunction Analyzer.poolFunction none]).1
      ∧ .type (.struct renewedStruct) ∈ renewedAnalysis.definitions
      ∧ final.Backs Analyzer.poolParser (.type (.struct renewedStruct)) := by
  intro sources workspace final
  have built : Workspace.build Analyzer.poolParser sources = .ok workspace := rfl
  have parsed
      : renewedSource.parse Analyzer.poolParser = .ok (Analyzer.poolTree "b.sol", renewedFile) :=
    rfl
  have remaining
      : final.workspace = .ofFiles [renewedFile] [("b.sol", Analyzer.poolTree "b.sol")] := by
    change (run _ _ _).workspace = _
    rw [run, List.foldl_cons, edited, Workspace.reindex, parsed]
    rfl
  have answered
      : .ok (.analysis renewedAnalysis)
        ∈ ((Analyzer.ofWorkspace final.workspace).run SettingTables.default.settings
            [.analyzeFunction Analyzer.poolFunction none]).1 := by
    rw [remaining]
    exact List.mem_cons_self
  have listed : .type (.struct renewedStruct) ∈ renewedAnalysis.definitions := List.mem_cons_self
  obtain ⟨backed, -⟩ := answers_backed built [.reindex renewedSource, .remove "a.sol"]
  exact ⟨built, answered, listed, backed _ _ _ answered _ listed⟩

end Revision

end SolidityAtlas
