import SolidityAtlas.Proofs.Outline.Placement
import SolidityAtlas.Proofs.Resolution.CallSites
import SolidityAtlas.Proofs.Workspace.Revisions

/-! The contract that an analysis puts a function into. It is looked for by the name of the function
and the line it starts on, so it is the contract that declares the function unless one in front of
it declares a function of the same name on the same line. A function at file level is put into a
contract exactly when some contract of the file declares such a function.
-/

namespace SolidityAtlas

open Outcome

/-- A contract declares a function with the name of another one that starts on the same line. -/
def ContractDecl.HasNamesake (declared : ContractDecl) (function : FunctionDecl) : Prop :=
  ∃ other ∈ declared.functions,
    other.name = function.name ∧ other.location.first.line = function.location.first.line

instance {declared : ContractDecl} {function : FunctionDecl}
    : Decidable (declared.HasNamesake function) :=
  inferInstanceAs (Decidable (∃ other ∈ declared.functions, _))

/-- An analysis names a contract, and all its state variables are declared there. -/
structure Analysis.BelongsTo (analysis : Analysis) (declared : ContractDecl) : Prop where
  contract : analysis.contract = some declared.name
  stateVariables : ∀ stored ∈ analysis.stateVariables, stored ∈ declared.stateVariables

/-- An analysis names no contract and has no state variables. -/
structure Analysis.IsFree (analysis : Analysis) : Prop where
  contract : analysis.contract = none
  stateVariables : analysis.stateVariables = []

namespace Workspace

variable {workspace : Workspace} {settings : Settings} {file : FileOutline}
  {function : FunctionDecl} {owner : ContractDecl} {current : Option String}
  {analysis : Analysis}

/-- The contract of a function is the first one of its file with a namesake of the function. -/
theorem contractOf_eq_find? (indexed : file ∈ workspace.files.items)
    (stored : function.path = file.path)
    : workspace.contractOf function
      = file.contracts.find? fun declared => declared.HasNamesake function := by
  have found : workspace.file? function.path = some file :=
    KeyedList.get?_eq_some_iff.mpr ⟨indexed, stored.symm⟩
  have same (declared : ContractDecl)
      : (declared.functions.any fun candidate =>
          candidate.name = function.name &&
            candidate.location.first.line == function.location.first.line)
        = decide (declared.HasNamesake function) := by
    rw [Bool.eq_iff_iff, decide_eq_true_iff]
    simp [ContractDecl.HasNamesake]
  rw [contractOf, found]
  simp only [Option.bind_eq_bind, Option.bind_some, same]

/-- The state variables of a function are declared by its contract. -/
theorem mem_stateVariables_of_mem_variablesOf (owned : workspace.contractOf function = some owner)
    {stored : StateVariable} (member : stored ∈ workspace.variablesOf function)
    : stored ∈ owner.stateVariables := by
  rw [variablesOf, owned] at member
  obtain ⟨name, -, found⟩ := List.mem_filterMap.mp member
  exact List.mem_reverse.mp (List.mem_of_find?_eq_some found)

/-- The analysis of a function belongs to the contract that is found for the function. -/
theorem belongsTo_of_contractOf (owned : workspace.contractOf function = some owner)
    (done : workspace.analysisOf settings function current = .ok analysis)
    : analysis.BelongsTo owner := by
  simp only [analysisOf, bind_eq_ok_iff] at done
  obtain ⟨types, -, calls, -, made⟩ := done
  obtain rfl := pure_eq_ok_iff.mp made
  refine ⟨by simp [owned], ?_⟩
  intro stored member
  exact mem_stateVariables_of_mem_variablesOf owned member

/-- The analysis of a function without a contract is free if no contract is found. -/
theorem isFree_of_contractOf (unowned : workspace.contractOf function = none)
    (free : function.contract = none)
    (done : workspace.analysisOf settings function current = .ok analysis)
    : analysis.IsFree := by
  simp only [analysisOf, bind_eq_ok_iff] at done
  obtain ⟨types, -, calls, -, made⟩ := done
  obtain rfl := pure_eq_ok_iff.mp made
  exact ⟨by simp [unowned, free], by simp [variablesOf, unowned]⟩

/-- The analysis of a function of a contract belongs to this contract exactly when no contract in
front of it has a namesake of the function.
-/
theorem belongsTo_iff {before after : List ContractDecl}
    (indexed : file ∈ workspace.files.items) (stored : function.path = file.path)
    (distinct : (file.contracts.map (·.name)).Nodup)
    (split : file.contracts = before ++ owner :: after) (member : function ∈ owner.functions)
    (done : workspace.analysisOf settings function current = .ok analysis)
    : analysis.BelongsTo owner ↔ ∀ earlier ∈ before, ¬ earlier.HasNamesake function := by
  have known := contractOf_eq_find? indexed stored
  have own : owner.HasNamesake function := ⟨function, member, rfl, rfl⟩
  rw [split, List.find?_append] at known
  cases found : before.find? fun declared => declared.HasNamesake function with
  | none =>
      have owned : workspace.contractOf function = some owner := by
        simp [known, found, own]
      refine iff_of_true (belongsTo_of_contractOf owned done) ?_
      intro earlier listed
      simpa using List.find?_eq_none.mp found earlier listed
  | some other =>
      have listed : other ∈ before := List.mem_of_find?_eq_some found
      have namesake : other.HasNamesake function := by simpa using List.find?_some found
      have owned : workspace.contractOf function = some other := by
        rw [known, found, Option.some_or]
      -- the contract that is found instead has another name
      have different : owner.name ≠ other.name := by
        rw [split, List.map_append, List.nodup_append] at distinct
        exact fun same =>
          distinct.2.2 _ (List.mem_map_of_mem listed) owner.name (by simp) same.symm
      refine iff_of_false ?_ (fun nothing => nothing other listed namesake)
      intro belongs
      have named := (belongsTo_of_contractOf owned done).contract
      exact different (Option.some.inj (belongs.contract.symm.trans named))

/-- The analysis of a function without a contract is free exactly when no contract of its file has a
namesake of the function.
-/
theorem isFree_iff (indexed : file ∈ workspace.files.items) (stored : function.path = file.path)
    (free : function.contract = none)
    (done : workspace.analysisOf settings function current = .ok analysis)
    : analysis.IsFree ↔ ∀ declared ∈ file.contracts, ¬ declared.HasNamesake function := by
  have known := contractOf_eq_find? indexed stored
  cases found : file.contracts.find? fun declared => declared.HasNamesake function with
  | none =>
      refine iff_of_true (isFree_of_contractOf (known.trans found) free done) ?_
      intro declared listed
      simpa using List.find?_eq_none.mp found declared listed
  | some other =>
      have listed : other ∈ file.contracts := List.mem_of_find?_eq_some found
      have namesake : other.HasNamesake function := by simpa using List.find?_some found
      refine iff_of_false ?_ (fun nothing => nothing other listed namesake)
      intro unowned
      have named := (belongsTo_of_contractOf (known.trans found) done).contract
      rw [unowned.contract] at named
      cases named

-----------------------------------------------------------------------------------------
-- Functions of built workspaces
-----------------------------------------------------------------------------------------

/-- In a workspace that was built the analysis of a function of a contract belongs to this contract
exactly when no contract in front of it has a namesake of the function; and the analysis of a
function at file level is free exactly when no contract of the file has one.
-/
theorem analysisOf_attributed {parser : Parser} {sources : Sources}
    (built : build parser sources = .ok workspace) (indexed : file ∈ workspace.files.items)
    (distinct : (file.contracts.map (·.name)).Nodup) (settings : Settings)
    (current : Option String)
    : (settings.AnswersAnalysis
        → ∀ function ∈ file.allFunctions,
          ∃ analysis, workspace.analysisOf settings function current = .ok analysis)
      ∧ (∀ before owner after, file.contracts = before ++ owner :: after
        → ∀ function ∈ owner.functions,
          ∀ analysis, workspace.analysisOf settings function current = .ok analysis
          → (analysis.BelongsTo owner ↔ ∀ earlier ∈ before, ¬ earlier.HasNamesake function))
      ∧ ∀ function ∈ file.functions,
          ∀ analysis, workspace.analysisOf settings function current = .ok analysis
          → (analysis.IsFree ↔ ∀ declared ∈ file.contracts, ¬ declared.HasNamesake function) := by
  obtain ⟨tree, source, outlined⟩ := exists_outlineOf_of_build built indexed
  refine ⟨fun answers function _ => exists_analysisOf answers workspace function current, ?_, ?_⟩
  · intro before owner after split function member analysis done
    have listed : function ∈ file.allFunctions :=
      List.mem_append_left _ (List.mem_flatMap.mpr ⟨owner, by simp [split], member⟩)
    have stored := path_of_mem_allFunctions outlined listed
    exact belongsTo_iff indexed stored distinct split member done
  · intro function member analysis done
    have stored := path_of_mem_allFunctions outlined (List.mem_append_right _ member)
    exact isFree_iff indexed stored (contract_of_mem_functions outlined member) done

-----------------------------------------------------------------------------------------
-- Contracts in one line
-----------------------------------------------------------------------------------------

/-- Two contracts in one line, which differ in their names only. -/
def twinText : String :=
  "contract A \x7b uint n; function f() public \x7b n; \x7d \x7d "
    ++ "contract B \x7b uint n; function f() public \x7b n; \x7d \x7d"

/-- The state variable of the contract at an offset. -/
def twinVariableNode (offset : Nat) : Json :=
  lineNode "VariableDeclaration" "n" (offset + 13) (offset + 18) []

/-- The declaration of the variable. -/
def twinDeclarationNode (offset : Nat) : Json :=
  lineNode "StateVariableDeclaration" "" (offset + 13) (offset + 19)
    [("variables", .arr [twinVariableNode offset])]

/-- The function of the contract at an offset. -/
def twinFunctionNode (offset : Nat) : Json :=
  lineNode functionKind "f" (offset + 21) (offset + 46) []

/-- The contract at an offset. -/
def twinContractNode (name : String) (offset : Nat) : Json :=
  lineNode contractKind name offset (offset + 48)
    [("subNodes", .arr [twinDeclarationNode offset, twinFunctionNode offset])]

/-- The tree of the text. -/
def twinTree : Json :=
  .obj
    [("type", .str "SourceUnit"),
     ("children", .arr [twinContractNode "A" 0, twinContractNode "B" 50])]

/-- The function of the contract at an offset. -/
def twinFunction (owner : String) (offset : Nat) : FunctionDecl :=
  { name := "f"
    visibility := "default"
    mutability := none
    parameters := []
    returns := []
    modifiers := []
    body := ""
    source := "function f() public \x7b n; \x7d"
    location := ⟨⟨1, offset + 21⟩, ⟨1, offset + 46⟩⟩
    path := "c.sol"
    contract := some owner }

/-- The state variable of the contract at an offset. -/
def twinVariable (owner : String) (offset : Nat) : StateVariable :=
  { name := "n"
    typeName := ""
    visibility := "default"
    source := "uint n;"
    location := ⟨⟨1, offset + 13⟩, ⟨1, offset + 19⟩⟩
    path := "c.sol"
    contract := owner }

/-- The contract at an offset. -/
def twinContract (name : String) (offset : Nat) : ContractDecl :=
  { name := name
    kind := .contract
    functions := [twinFunction name offset]
    structs := []
    enums := []
    stateVariables := [twinVariable name offset]
    bases := []
    location := ⟨⟨1, offset⟩, ⟨1, offset + 48⟩⟩
    path := "c.sol" }

/-- The outline of the text. -/
def twinOutline : FileOutline :=
  { FileOutline.empty "c.sol" with contracts := [twinContract "A" 0, twinContract "B" 50] }

/-- The workspace of the text. -/
def twinWorkspace : Workspace :=
  .ofFiles [twinOutline] [("c.sol", twinTree)]

-- the excerpts go through the text character by character
set_option maxRecDepth 1000 in
/-- The workspace is what the text and its tree give. -/
theorem build_twinText
    : build (fun _ => .ok twinTree) (.ofList [⟨"c.sol", twinText⟩]) = .ok twinWorkspace :=
  rfl

/-- The analysis of both functions: it names the first contract and the variable of this one. -/
def twinAnalysis (function : FunctionDecl) : Analysis :=
  { function := function
    contract := some "A"
    types := []
    calls := []
    stateVariables := [twinVariable "A" 0] }

/-- The function of the first contract belongs to it, the one of the second contract does not. -/
theorem analysisOf_attributed_twins
    : let settings := SettingTables.default.settings
      build (fun _ => .ok twinTree) (.ofList [⟨"c.sol", twinText⟩]) = .ok twinWorkspace
      ∧ twinOutline ∈ twinWorkspace.files.items
      ∧ (twinOutline.contracts.map (·.name)).Nodup
      ∧ settings.AnswersAnalysis
      ∧ (∃ analysis,
          twinWorkspace.analysisOf settings (twinFunction "A" 0) none = .ok analysis
          ∧ analysis.BelongsTo (twinContract "A" 0))
      ∧ ∃ analysis,
          twinWorkspace.analysisOf settings (twinFunction "B" 50) none = .ok analysis
          ∧ ¬ analysis.BelongsTo (twinContract "B" 50) := by
  intro settings
  have indexed : twinOutline ∈ twinWorkspace.files.items := List.mem_cons_self
  have distinct : (twinOutline.contracts.map (·.name)).Nodup := by decide
  have answers : settings.AnswersAnalysis := ⟨⟨_, rfl⟩, ⟨_, rfl⟩, ⟨_, rfl⟩⟩
  obtain ⟨done, attributed, -⟩ :=
    analysisOf_attributed build_twinText indexed distinct settings none
  obtain ⟨first, firstDone⟩ := done answers (twinFunction "A" 0) (by decide)
  obtain ⟨second, secondDone⟩ := done answers (twinFunction "B" 50) (by decide)
  refine ⟨build_twinText, indexed, distinct, answers, ⟨first, firstDone, ?_⟩,
    second, secondDone, ?_⟩
  · rw [attributed [] _ [twinContract "B" 50] rfl _ List.mem_cons_self first firstDone]
    decide
  · rw [attributed [twinContract "A" 0] _ [] rfl _ List.mem_cons_self second secondDone]
    decide

/-- The kinds of node that define what an outline lists. -/
def definitionKinds : List String :=
  [contractKind, functionKind, "StructDefinition", "EnumDefinition", "StateVariableDeclaration",
   "VariableDeclaration"]

/-- Every node that defines something has a range and a span of the same text. -/
def DefinitionsPlaced (source : String) (tree : Json) : Prop :=
  ∀ node kind,
    Within tree node → kindOf node = some kind → kind ∈ definitionKinds → CarriesExtent source node

/-- A node with its range and span in the text of the two contracts has an extent there. -/
theorem carriesExtent_lineNode {kind name : String} {first last : Nat}
    {properties : List (String × Json)} (ordered : first ≤ last) (inside : last < 99)
    : CarriesExtent twinText (lineNode kind name first last properties) := by
  have length : twinText.toList.length = 99 := by decide
  have oneLine : '\n' ∉ twinText.toList := by decide
  refine ⟨first, last, ordered, by omega, rfl, ?_⟩
  rw [Position.ofOffset_of_not_mem oneLine (by omega),
    Position.ofOffset_of_not_mem oneLine (by omega)]
  exact ⟨rfl, rfl⟩

/-- Every node of a contract of the text has an extent there, by the children from the top down. -/
theorem carriesExtent_twinContractNode {name : String} {offset : Nat} {node : Json}
    (early : offset ≤ 50) (within : Within (twinContractNode name offset) node)
    : CarriesExtent twinText node := by
  have parts
      : children (twinContractNode name offset)
        = [twinDeclarationNode offset, twinFunctionNode offset] :=
    rfl
  have declared : children (twinDeclarationNode offset) = [twinVariableNode offset] := rfl
  have variableLeaf : children (twinVariableNode offset) = [] := rfl
  have functionLeaf : children (twinFunctionNode offset) = [] := rfl
  rw [within_iff, parts] at within
  rcases within with rfl | ⟨part, listed, below⟩
  · exact carriesExtent_lineNode (by omega) (by omega)
  · rw [List.mem_cons, List.mem_singleton] at listed
    rcases listed with rfl | rfl
    · rw [within_iff, declared] at below
      rcases below with rfl | ⟨child, only, deeper⟩
      · exact carriesExtent_lineNode (by omega) (by omega)
      · obtain rfl := List.mem_singleton.mp only
        rw [within_iff, variableLeaf] at deeper
        rcases deeper with rfl | ⟨none, impossible, -⟩
        · exact carriesExtent_lineNode (by omega) (by omega)
        · cases impossible
    · rw [within_iff, functionLeaf] at below
      rcases below with rfl | ⟨none, impossible, -⟩
      · exact carriesExtent_lineNode (by omega) (by omega)
      · cases impossible

/-- Every definition in the tree has a range and a span. -/
theorem definitionsPlaced_twinTree : DefinitionsPlaced twinText twinTree := by
  have top : children twinTree = [twinContractNode "A" 0, twinContractNode "B" 50] := rfl
  intro node kind within found defines
  rw [within_iff, top] at within
  rcases within with rfl | ⟨contract, listed, below⟩
  · obtain rfl : "SourceUnit" = kind := Option.some.inj found
    exact absurd defines (by decide)
  · rw [List.mem_cons, List.mem_singleton] at listed
    rcases listed with rfl | rfl
    · exact carriesExtent_twinContractNode (by omega) below
    · exact carriesExtent_twinContractNode (by omega) below

/-- The analysis of a function names another contract than the one that declares the function, and
has a state variable that is not declared there, although all definitions have ranges and spans and
the contracts have different names.
-/
theorem analysisOf_not_attributed
    : ∃ workspace file owner function analysis,
        build (fun _ => .ok twinTree) (.ofList [⟨"c.sol", twinText⟩]) = .ok workspace
        ∧ DefinitionsPlaced twinText twinTree
        ∧ file ∈ workspace.files.items
        ∧ (file.contracts.map (·.name)).Nodup
        ∧ owner ∈ file.contracts
        ∧ function ∈ owner.functions
        ∧ workspace.analysisOf SettingTables.default.settings function none = .ok analysis
        ∧ analysis.contract ≠ some owner.name
        ∧ ∃ stored ∈ analysis.stateVariables, stored ∉ owner.stateVariables := by
  have done
      : twinWorkspace.analysisOf SettingTables.default.settings (twinFunction "B" 50) none
        = .ok (twinAnalysis (twinFunction "B" 50)) :=
    rfl
  refine ⟨twinWorkspace, twinOutline, twinContract "B" 50, twinFunction "B" 50, _, build_twinText,
    definitionsPlaced_twinTree, List.mem_cons_self, by decide,
    List.mem_cons_of_mem _ List.mem_cons_self, List.mem_cons_self, done, by decide, ?_⟩
  exact ⟨twinVariable "A" 0, List.mem_cons_self, by decide⟩

end Workspace

end SolidityAtlas
