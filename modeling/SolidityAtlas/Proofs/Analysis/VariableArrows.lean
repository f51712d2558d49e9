import SolidityAtlas.Proofs.Analysis.DependencyView
import SolidityAtlas.Proofs.Analysis.Provenance
import SolidityAtlas.Proofs.Resolution.VariableMentions

/-! The arrows from a function to the state variables that it mentions. The variables of an analysis
are in the order of their first mentions, and each arrow starts at the line of one, so the lines
that the arrows start from never go back.
-/

namespace SolidityAtlas

open Outcome Text

variable {workspace : Workspace} {function : FunctionDecl} {analysis : Analysis} {view : View}
  {done rest : List Dependency}

-----------------------------------------------------------------------------------------
-- Variables of a function
-----------------------------------------------------------------------------------------

namespace Workspace

/-- A contract declares the variables whose names it has. -/
theorem exists_declaredVariable? {contract : ContractDecl} {name : String}
    (known : name ∈ contract.stateVariables.map (·.name))
    : ∃ stored, declaredVariable? contract name = some stored ∧ stored.name = name := by
  obtain ⟨other, listed, named⟩ := List.mem_map.mp known
  have found : (declaredVariable? contract name).isSome := by
    rw [declaredVariable?, List.find?_isSome]
    exact ⟨other, List.mem_reverse.mpr listed, by simpa using named⟩
  obtain ⟨stored, same⟩ := Option.isSome_iff_exists.mp found
  exact ⟨stored, same, by simpa using List.find?_some same⟩

/-- The state variables of a function come in the order of their first mentions. -/
theorem mentionsInOrder_variablesOf (workspace : Workspace) (function : FunctionDecl)
    : ∃ declared,
        MentionsInOrder function.source.toList declared
          ((workspace.variablesOf function).map (·.name)) := by
  rw [variablesOf]
  cases workspace.contractOf function with
  | none => exact ⟨[], by simp, by simp, .nil⟩
  | some contract =>
      have mentions := mentionsInOrder_mentionedVariables function contract
      have names
          : ((mentionedVariables function contract).filterMap (declaredVariable? contract)).map
              (·.name)
            = mentionedVariables function contract := by
        rw [List.map_filterMap]
        refine (List.filterMap_congr ?_).trans List.filterMap_some
        intro name mentioned
        obtain ⟨stored, found, rfl⟩ :=
          exists_declaredVariable? ((mentions.listed name).mp mentioned).1
        rw [found, Option.map_some]
      exact ⟨_, names ▸ mentions⟩

/-- The state variables of an analysis are those of its function. -/
theorem stateVariables_of_analysisOf {settings : Settings} {current : Option String}
    (done : workspace.analysisOf settings function current = .ok analysis)
    : analysis.stateVariables = workspace.variablesOf function := by
  simp only [analysisOf, bind_eq_ok_iff] at done
  obtain ⟨types, -, calls, -, made⟩ := done
  rw [← pure_eq_ok_iff.mp made]

end Workspace

-----------------------------------------------------------------------------------------
-- Arrows
-----------------------------------------------------------------------------------------

/-- An arrow leads to a dependency from the line that uses it. -/
structure Dependency.UsedBy (dependency : Dependency) (arrow : Arrow) : Prop where
  target : arrow.targetBlock = dependency.block.id
  line : arrow.sourceLine = dependency.line
  category : arrow.category = dependency.block.category

/-- Each dependency that is connected gets an arrow, by induction on the dependencies. -/
theorem forall₂_usedBy_foldl (drawn : List.Forall₂ Dependency.UsedBy done view.arrows)
    : List.Forall₂ Dependency.UsedBy (done ++ rest)
        (rest.foldl
          (fun view dependency =>
            view.connect "main" dependency.line dependency.label dependency.block)
          view).arrows := by
  induction rest generalizing view done with
  | nil => simpa using drawn
  | cons dependency rest ih =>
      have next
          : List.Forall₂ Dependency.UsedBy (done ++ [dependency])
              (view.connect "main" dependency.line dependency.label dependency.block).arrows :=
        List.rel_append drawn (.cons ⟨rfl, rfl, rfl⟩ .nil)
      simpa using ih next

/-- The block of a type is none of a state variable. -/
theorem TypeReference.category_ne_of_block? (reference : TypeReference) {block : Block}
    (made : reference.block? = some block)
    : block.category ≠ .stateVariable := by
  obtain ⟨definition, -, category, sort, rfl⟩ := by
    simpa [TypeReference.block?, Option.bind_eq_some_iff] using made
  rintro rfl
  cases kind : reference.kind <;> simp [kind, ReferenceKind.category?] at sort

namespace Analysis

/-- The dependencies of an analysis that are state variables. -/
theorem filter_dependencies (analysis : Analysis)
    : analysis.dependencies.filter (fun dependency => dependency.block.category = .stateVariable)
      = analysis.stateVariables.map fun stored =>
          { block := stored.block
            line := analysis.function.lineMentioning stored.name
            label := none } := by
  simp only [dependencies, List.filter_append]
  rw [List.filter_eq_nil_iff.mpr, List.filter_eq_nil_iff.mpr, List.filter_eq_self.mpr]
  · rfl
  · intro dependency member
    obtain ⟨stored, -, rfl⟩ := List.mem_map.mp member
    rfl
  · intro dependency member
    obtain ⟨call, -, made⟩ := List.mem_filterMap.mp member
    obtain ⟨target, -, rfl⟩ := Option.map_eq_some_iff.mp made
    simp [FunctionDecl.block]
  · intro dependency member
    obtain ⟨reference, -, made⟩ := List.mem_filterMap.mp member
    obtain ⟨block, found, rfl⟩ := Option.map_eq_some_iff.mp made
    simpa using reference.category_ne_of_block? found

/-- The arrows of a category lead to the dependencies of the category, in order. -/
theorem forall₂_usedBy_filter (analysis : Analysis) (category : BlockCategory)
    : List.Forall₂ Dependency.UsedBy
        (analysis.dependencies.filter fun dependency => dependency.block.category = category)
        (analysis.view.arrows.filter fun arrow => arrow.category = category) := by
  have drawn : List.Forall₂ Dependency.UsedBy ([] ++ analysis.dependencies) analysis.view.arrows :=
    forall₂_usedBy_foldl .nil
  refine List.rel_filter ?_ drawn
  intro dependency arrow used
  simp [used.category]

end Analysis

-----------------------------------------------------------------------------------------
-- Lines of arrows
-----------------------------------------------------------------------------------------

/-- An arrow leads from the line of the first mention of a state variable to the block of the
variable.
-/
structure StateVariable.FirstMentionedBy (function : FunctionDecl) (stored : StateVariable)
    (arrow : Arrow)
    : Prop where
  target : arrow.targetBlock = stored.block.id
  line
    : ∃ offset,
        FirstWordAt function.source.toList stored.name.toList offset
        ∧ arrow.sourceLine
          = function.location.first.line + (function.source.toList.take offset).count '\n'

/-- Names that are listed as a function mentions them are mentioned in lines that do not go back. -/
theorem MentionsInOrder.pairwise_lineMentioning {declared names : List String}
    (mentions : MentionsInOrder function.source.toList declared names)
    : names.Pairwise fun name later =>
        function.lineMentioning name ≤ function.lineMentioning later := by
  refine mentions.ordered.imp ?_
  rintro name later ⟨first, second, here, there, earlier⟩
  have lines
      : (function.source.toList.take first).count '\n'
        ≤ (function.source.toList.take second).count '\n' :=
    count_take_mono (Nat.le_of_lt earlier)
  rw [lineMentioning_of_firstWordAt here, lineMentioning_of_firstWordAt there]
  omega

/-- For every function and every contract the state variables of the contract are listed as the
function mentions them. For every analysis of the function, in any workspace, there is an arrow to
each state variable from the line of its first mention, and these lines do not go back.
-/
theorem variable_arrows_start_at_first_mentions (function : FunctionDecl)
    : (∀ contract,
        MentionsInOrder function.source.toList (contract.stateVariables.map (·.name))
          (mentionedVariables function contract))
      ∧ ∀ workspace settings current analysis,
          Workspace.analysisOf workspace settings function current = .ok analysis
          → let arrows := analysis.view.arrows.filter fun arrow => arrow.category = .stateVariable
            List.Forall₂ (StateVariable.FirstMentionedBy function) analysis.stateVariables arrows
            ∧ (arrows.map (·.sourceLine)).Pairwise (· ≤ ·) := by
  refine ⟨mentionsInOrder_mentionedVariables function, ?_⟩
  intro workspace settings current analysis done arrows
  have same : analysis.function = function := Workspace.function_of_analysisOf done
  obtain ⟨declared, mentions⟩ := workspace.mentionsInOrder_variablesOf function
  rw [← Workspace.stateVariables_of_analysisOf done] at mentions
  have drawn
      : List.Forall₂
          (fun stored arrow =>
            arrow.targetBlock = stored.block.id
            ∧ arrow.sourceLine = function.lineMentioning stored.name)
          analysis.stateVariables arrows := by
    have used := analysis.forall₂_usedBy_filter .stateVariable
    rw [analysis.filter_dependencies, List.forall₂_map_left_iff, same] at used
    exact used.imp fun stored arrow connected => ⟨connected.target, connected.line⟩
  have placed (stored : StateVariable) (listed : stored ∈ analysis.stateVariables)
      : ∃ offset, FirstWordAt function.source.toList stored.name.toList offset := by
    have named := (mentions.listed stored.name).mp (List.mem_map.mpr ⟨stored, listed, rfl⟩)
    exact named.2.2.exists_first
  constructor
  · refine ((List.forall₂_and_left _ _).mpr ⟨placed, drawn⟩).imp ?_
    rintro stored arrow ⟨⟨offset, first⟩, target, line⟩
    exact ⟨target, offset, first, line.trans (lineMentioning_of_firstWordAt first)⟩
  · have lines
        : analysis.stateVariables.map (fun stored => function.lineMentioning stored.name)
          = arrows.map (·.sourceLine) :=
      map_key_of_forall₂ (fun _ _ connected => connected.2.symm) drawn
    have ordered := mentions.pairwise_lineMentioning
    rw [List.pairwise_map] at ordered
    rwa [← lines, List.pairwise_map]

/-- A function that mentions two state variables in lines of their own, the one declared last first.
Parts of longer names and a comment come before or behind.
-/
def tallyFunction : FunctionDecl :=
  { addFunction with
    name := "tally"
    body := "\x7b\n  recount(total);\n  count = 1; // total\n\x7d"
    source := "function tally() public \x7b\n  recount(total);\n  count = 1; // total\n\x7d"
    location := ⟨⟨4, 2⟩, ⟨7, 0⟩⟩ }

/-- The file of the function. -/
def tallyOutline : FileOutline :=
  { FileOutline.empty "bank.sol" with
    contracts :=
      [{ name := "Bank"
         kind := .contract
         functions := [tallyFunction]
         structs := []
         enums := []
         stateVariables := [countVariable, { countVariable with name := "total" }]
         bases := []
         location := ⟨⟨1, 0⟩, ⟨9, 0⟩⟩
         path := "bank.sol" }] }

/-- The arrows start in the lines where the two variables stand for the first time. -/
theorem variable_arrows_of_tally
    : ∃ analysis,
        Workspace.analysisOf (.ofFiles [tallyOutline] []) SettingTables.default.settings
          tallyFunction none
          = .ok analysis
        ∧ (let arrows := analysis.view.arrows.filter fun arrow => arrow.category = .stateVariable
          List.Forall₂ (StateVariable.FirstMentionedBy tallyFunction) analysis.stateVariables arrows
          ∧ (arrows.map (·.sourceLine)).Pairwise (· ≤ ·)
          ∧ arrows.map (fun arrow => (arrow.targetBlock, arrow.sourceLine))
            = [("statevar-total", 5), ("statevar-count", 6)]) := by
  have starts := (variable_arrows_start_at_first_mentions tallyFunction).2
    (.ofFiles [tallyOutline] []) SettingTables.default.settings none
  exact ⟨_, rfl, (starts _ rfl).1, (starts _ rfl).2, rfl⟩

end SolidityAtlas
