import SolidityAtlas.Analysis.View
import SolidityAtlas.Proofs.Analysis.FunctionLookup
import SolidityAtlas.Proofs.Resolution.NameSearch
import Mathlib.Data.List.Perm.Subperm

/-! The dependency view of a function shows everything that its analysis found and mixes nothing up.
Blocks are merged by an id that is made of a category and a local name, so it has to be seen that
one analysis never finds two definitions of one category and name. Arrows are numbered apart, and a
number that no arrow has is always found.
-/

namespace SolidityAtlas

open Outcome

-----------------------------------------------------------------------------------------
-- Ids
-----------------------------------------------------------------------------------------

/-- A block id tells the category and the name that it is made of. -/
theorem BlockCategory.eq_of_id_eq {category other : BlockCategory} {first second : String}
    (same : category.text ++ "-" ++ first = other.text ++ "-" ++ second)
    : category = other ∧ first = second := by
  have characters := congrArg String.toList same
  cases category <;> cases other
  all_goals simp [BlockCategory.text, String.toList_append] at characters
  all_goals exact ⟨rfl, String.toList_inj.mp characters⟩

/-- Of more candidates than are taken the first one that is not taken is found. -/
theorem find?_getD_not_mem {candidates taken : List String} (distinct : candidates.Nodup)
    (more : taken.length < candidates.length) (default : String)
    : (candidates.find? fun candidate => !taken.contains candidate).getD default ∉ taken := by
  cases found : candidates.find? fun candidate => !taken.contains candidate with
  | some candidate => simpa using List.find?_some found
  | none =>
      have covered : candidates ⊆ taken := by
        intro candidate member
        simpa using List.find?_eq_none.mp found candidate member
      have fewer := distinct.length_le_of_subset covered
      omega

/-- Different numbers behind an id make different ids. -/
theorem numbered_injective (id : String)
    : Function.Injective fun n : Nat => id ++ "-" ++ toString (n + 2) := by
  intro n m same
  have digits : Nat.toDigits 10 (n + 2) = Nat.toDigits 10 (m + 2) := by
    simpa using congrArg String.toList same
  have number := congrArg (fun digits => Nat.ofDigitChars 10 digits 0) digits
  simpa using number

/-- A new arrow id is taken by no arrow, as there are more numbers to try than arrows. -/
theorem freshArrowId_not_mem (arrows : List Arrow) (id : String)
    : freshArrowId arrows id ∉ arrows.map (·.id) := by
  rw [freshArrowId]
  split
  · refine find?_getD_not_mem (List.nodup_range.map (numbered_injective id)) ?_ id
    simp
  · rename_i new
    simpa using new

-----------------------------------------------------------------------------------------
-- Views that connect dependencies
-----------------------------------------------------------------------------------------

/-- An arrow leads from the main block to the block of a dependency. -/
structure Dependency.DrawnAs (dependency : Dependency) (arrow : Arrow) : Prop where
  source : arrow.sourceBlock = "main"
  target : arrow.targetBlock = dependency.block.id
  line : arrow.targetLine = dependency.block.startLine
  category : arrow.category = dependency.block.category

/-- The main block comes first, then the blocks of dependencies, each id once. -/
structure BlocksOf (main : Block) (dependencies : List Dependency) (blocks : List Block)
    : Prop where
  first : blocks.head? = some main
  ids : (blocks.map (·.id)).Nodup
  known : ∀ block ∈ blocks, block = main ∨ ∃ dependency ∈ dependencies, block = dependency.block
  shown : ∀ dependency ∈ dependencies, dependency.block ∈ blocks

/-- A view shows the main block and the dependencies, and has an arrow for every dependency in
order, each with its own id.
-/
structure View.Connects (view : View) (main : Block) (dependencies : List Dependency) : Prop where
  blocks : BlocksOf main dependencies view.blocks
  ids : (view.arrows.map (·.id)).Nodup
  arrows : List.Forall₂ Dependency.DrawnAs dependencies view.arrows

variable {view : View} {main : Block} {blocks : List Block} {done rest : List Dependency}
  {dependency : Dependency}

/-- The block of one more dependency is added where its id is new. Where the id is there already it
has to belong to the same block.
-/
theorem BlocksOf.add (shows : BlocksOf main done blocks) (other : dependency.block.id ≠ main.id)
    (agrees : ∀ known ∈ done, known.block.id = dependency.block.id → known.block = dependency.block)
    : BlocksOf main (done ++ [dependency])
        (if blocks.any fun block => block.id = dependency.block.id then blocks
          else blocks ++ [dependency.block]) := by
  have knownBefore (block : Block) (member : block ∈ blocks)
      : block = main ∨ ∃ item ∈ done ++ [dependency], block = item.block := by
    rcases shows.known block member with isMain | ⟨item, before, same⟩
    · exact .inl isMain
    · exact .inr ⟨item, List.mem_append_left _ before, same⟩
  split
  case isTrue taken =>
    -- The block that has the id is not the main one, so it agrees with the block of the dependency.
    have present : dependency.block ∈ blocks := by
      obtain ⟨block, member, same⟩ : ∃ block ∈ blocks, block.id = dependency.block.id := by
        simpa using taken
      rcases shows.known block member with rfl | ⟨item, before, rfl⟩
      · exact absurd same.symm other
      · rwa [← agrees item before same]
    refine ⟨shows.first, shows.ids, knownBefore, ?_⟩
    intro item member
    rcases List.mem_append.mp member with before | last
    · exact shows.shown item before
    · rwa [List.mem_singleton.mp last]
  case isFalse new =>
    refine ⟨?_, ?_, ?_, ?_⟩
    · rw [List.head?_append, shows.first]
      rfl
    · rw [List.map_append, List.map_singleton]
      refine shows.ids.append (List.nodup_singleton _) (List.disjoint_singleton.mpr ?_)
      simpa using new
    · intro block member
      rcases List.mem_append.mp member with before | last
      · exact knownBefore block before
      · exact .inr ⟨dependency, by simp, List.mem_singleton.mp last⟩
    · intro item member
      rcases List.mem_append.mp member with before | last
      · exact List.mem_append_left _ (shows.shown item before)
      · rw [List.mem_singleton.mp last]
        exact List.mem_append_right _ List.mem_cons_self

/-- Connecting one more dependency adds its block, if it is new, and an arrow with a new id. -/
theorem View.Connects.connect (connects : view.Connects main done)
    (other : dependency.block.id ≠ main.id)
    (agrees : ∀ known ∈ done, known.block.id = dependency.block.id → known.block = dependency.block)
    : (view.connect "main" dependency.line dependency.label dependency.block).Connects main
        (done ++ [dependency]) := by
  refine ⟨connects.blocks.add other agrees, ?_, ?_⟩
  · rw [View.connect, List.map_append, List.map_singleton]
    exact connects.ids.append (List.nodup_singleton _)
      (List.disjoint_singleton.mpr (freshArrowId_not_mem view.arrows _))
  · exact List.rel_append connects.arrows (.cons ⟨rfl, rfl, rfl, rfl⟩ .nil)

/-- A view connects one dependency after the other, by induction on those that are left. -/
theorem View.Connects.foldl (connects : view.Connects main done)
    (other : ∀ dependency ∈ rest, dependency.block.id ≠ main.id)
    (agree
      : ∀ first ∈ done ++ rest, ∀ second ∈ done ++ rest,
          first.block.id = second.block.id → first.block = second.block)
    : (rest.foldl
        (fun view dependency =>
          view.connect "main" dependency.line dependency.label dependency.block)
        view).Connects main (done ++ rest) := by
  induction rest generalizing view done with
  | nil => simpa using connects
  | cons dependency rest ih =>
      have next := connects.connect (other dependency List.mem_cons_self) (by
        intro known before
        exact agree known (by simp [before]) dependency (by simp))
      have later := ih next (fun item member => other item (List.mem_cons_of_mem _ member))
      simpa using later (by simpa using agree)

-----------------------------------------------------------------------------------------
-- Dependencies of an analysis
-----------------------------------------------------------------------------------------

/-- What a definition of a type is shown as. -/
def TypeDefinition.category : TypeDefinition → BlockCategory
  | .struct _ => .struct
  | .enum _ => .enum

/-- No type is shown as a function or a state variable. -/
theorem TypeDefinition.category_ne (definition : TypeDefinition)
    : definition.category ≠ .function ∧ definition.category ≠ .stateVariable := by
  cases definition <;> simp [category]

/-- A block shows the source text of a definition in a file, from its first line on. -/
structure Block.Displays (block : Block) (category : BlockCategory) (source path : String)
    (location : Location)
    : Prop where
  category : block.category = category
  source : block.source = source
  path : block.path = path
  startLine : block.startLine = location.first.line

/-- What an analysis found are definitions, and definitions of one category differ in their local
names.
-/
structure Analysis.Resolved (analysis : Analysis) : Prop where
  types
    : ∀ reference ∈ analysis.types,
        ∃ definition, reference.Shows (Text.unqualified reference.name) definition
  typeNames : (analysis.types.map fun reference => Text.unqualified reference.name).Nodup
  calls : ∀ call ∈ analysis.calls, ∃ target, call.target = some target ∧ target.name = call.name
  sameTarget
    : ∀ call ∈ analysis.calls, ∀ other ∈ analysis.calls,
        call.name = other.name → call.target = other.target
  variableNames : (analysis.stateVariables.map (·.name)).Nodup

/-- A block of a category is that of something of a local name that an analysis found. -/
inductive Analysis.Finds (analysis : Analysis) (category : BlockCategory) (name : String)
    (block : Block)
    : Prop where
  | type (reference : TypeReference) (definition : TypeDefinition)
      (listed : reference ∈ analysis.types) (shows : reference.Shows name definition)
      (sort : category = definition.category) (made : reference.block? = some block)
  | function (call : CallSite) (target : FunctionDecl) (listed : call ∈ analysis.calls)
      (known : call.target = some target) (named : call.name = name)
      (sort : category = .function) (made : block = target.block)
  | stateVariable (stored : StateVariable) (listed : stored ∈ analysis.stateVariables)
      (named : stored.name = name) (sort : category = .stateVariable) (made : block = stored.block)

/-- A type that shows a definition has a block that displays it. -/
theorem TypeReference.Shows.exists_block {reference : TypeReference} {definition : TypeDefinition}
    {name : String} (shows : reference.Shows name definition)
    : ∃ block, reference.block? = some block
        ∧ block.id = definition.category.text ++ "-" ++ name
        ∧ block.Displays definition.category definition.source definition.path
            definition.location := by
  rw [TypeReference.block?, shows.defined, shows.kind]
  cases definition
  all_goals exact ⟨_, rfl, by rw [shows.shown]; rfl, rfl, rfl, rfl, rfl⟩

namespace Analysis.Resolved

variable {analysis : Analysis} {category : BlockCategory} {name : String} {block other : Block}

/-- Every dependency has the block of something that was found, with an id of its category and local
name.
-/
theorem exists_finds (resolved : analysis.Resolved) {dependency : Dependency}
    (member : dependency ∈ analysis.dependencies)
    : ∃ category name, dependency.block.id = category.text ++ "-" ++ name
        ∧ analysis.Finds category name dependency.block := by
  rw [dependencies, List.mem_append, List.mem_append] at member
  rcases member with (isType | isCall) | isVariable
  · obtain ⟨reference, listed, made⟩ := List.mem_filterMap.mp isType
    obtain ⟨definition, shows⟩ := resolved.types reference listed
    obtain ⟨block, found, id, -⟩ := shows.exists_block
    rw [found] at made
    obtain rfl := Option.some.inj made
    exact ⟨_, _, id, .type reference definition listed shows rfl found⟩
  · obtain ⟨call, listed, made⟩ := List.mem_filterMap.mp isCall
    obtain ⟨target, known, named⟩ := resolved.calls call listed
    rw [known] at made
    obtain rfl := Option.some.inj made
    exact ⟨.function, target.name, rfl, .function call target listed known named.symm rfl rfl⟩
  · obtain ⟨stored, listed, rfl⟩ := List.mem_map.mp isVariable
    exact ⟨.stateVariable, stored.name, rfl, .stateVariable stored listed rfl rfl rfl⟩

/-- Of one category and local name only one block is found. The categories tell types, functions and
state variables apart; among themselves types and state variables differ in their local names, and
calls of one name have one target.
-/
theorem finds_unique (resolved : analysis.Resolved) (first : analysis.Finds category name block)
    (second : analysis.Finds category name other)
    : block = other := by
  cases first with
  | type reference definition listed shows sort made =>
      cases second with
      | type reference' definition' listed' shows' sort' made' =>
          obtain rfl := List.inj_on_of_nodup_map resolved.typeNames listed listed'
            (shows.shown.trans shows'.shown.symm)
          exact Option.some.inj (made.symm.trans made')
      | function _ _ _ _ _ sort' =>
          exact absurd (sort.symm.trans sort') definition.category_ne.1
      | stateVariable _ _ _ sort' =>
          exact absurd (sort.symm.trans sort') definition.category_ne.2
  | function call target listed known named sort made =>
      cases second with
      | type _ definition _ _ sort' =>
          exact absurd (sort'.symm.trans sort) definition.category_ne.1
      | function call' target' listed' known' named' sort' made' =>
          have same := resolved.sameTarget call listed call' listed' (named.trans named'.symm)
          rw [known, known'] at same
          rw [made, made', Option.some.inj same]
      | stateVariable _ _ _ sort' => cases sort.symm.trans sort'
  | stateVariable stored listed named sort made =>
      cases second with
      | type _ definition _ _ sort' =>
          exact absurd (sort'.symm.trans sort) definition.category_ne.2
      | function _ _ _ _ _ sort' => cases sort.symm.trans sort'
      | stateVariable stored' listed' named' sort' made' =>
          obtain rfl := List.inj_on_of_nodup_map resolved.variableNames listed listed'
            (named.trans named'.symm)
          rw [made, made']

/-- Dependencies with one block id have one block. -/
theorem block_eq_of_id_eq (resolved : analysis.Resolved) {first second : Dependency}
    (firstMember : first ∈ analysis.dependencies) (secondMember : second ∈ analysis.dependencies)
    (same : first.block.id = second.block.id)
    : first.block = second.block := by
  obtain ⟨category, name, id, finds⟩ := resolved.exists_finds firstMember
  obtain ⟨category', name', id', finds'⟩ := resolved.exists_finds secondMember
  obtain ⟨rfl, rfl⟩ := BlockCategory.eq_of_id_eq (id.symm.trans (same.trans id'))
  exact resolved.finds_unique finds finds'

/-- No dependency has the id of the main block. -/
theorem id_ne_main (resolved : analysis.Resolved) {dependency : Dependency}
    (member : dependency ∈ analysis.dependencies)
    : dependency.block.id ≠ analysis.mainBlock.id := by
  obtain ⟨category, name, id, -⟩ := resolved.exists_finds member
  intro same
  have characters : (category.text ++ "-" ++ name).toList = "main".toList := by
    rw [← id, same]
    rfl
  cases category <;> simp [BlockCategory.text] at characters

/-- The view of an analysis connects all its dependencies. -/
theorem view_connects (resolved : analysis.Resolved)
    : analysis.view.Connects analysis.mainBlock analysis.dependencies := by
  have start
      : View.Connects { blocks := [analysis.mainBlock], arrows := [] } analysis.mainBlock [] := by
    refine ⟨⟨rfl, by simp, by simp, by simp⟩, by simp, .nil⟩
  refine start.foldl (fun _ => resolved.id_ne_main) ?_
  intro first firstMember second secondMember
  exact resolved.block_eq_of_id_eq firstMember secondMember

end Analysis.Resolved

-----------------------------------------------------------------------------------------
-- Views of analyses
-----------------------------------------------------------------------------------------

variable {analysis : Analysis} {arrow : Arrow} {category : BlockCategory} {source path : String}
  {location : Location}

/-- An arrow of a category leads from the main block to the only block of its target id, and this
block displays a definition.
-/
structure Arrow.LeadsTo (arrow : Arrow) (view : View) (category : BlockCategory)
    (source path : String) (location : Location)
    : Prop where
  start : arrow.sourceBlock = "main"
  line : arrow.targetLine = location.first.line
  sort : arrow.category = category
  target
    : ∃ block, view.blocks.filter (fun block => block.id = arrow.targetBlock) = [block]
        ∧ block.Displays category source path location

/-- A view starts with the block of the analysed function. Its blocks have distinct ids, and so have
its arrows, which lead to the definition of every type, to the target of every call and to every
state variable, in this order. There is no other block.
-/
structure View.Shows (view : View) (analysis : Analysis) : Prop where
  main : view.blocks.head? = some analysis.mainBlock ∧ analysis.mainBlock.id = "main"
  blockIds : (view.blocks.map (·.id)).Nodup
  arrowIds : (view.arrows.map (·.id)).Nodup
  arrows
    : ∃ toTypes toTargets toVariables, view.arrows = toTypes ++ toTargets ++ toVariables
        ∧ List.Forall₂
            (fun reference arrow => ∃ definition, reference.definition = some definition
              ∧ arrow.LeadsTo view definition.category definition.source definition.path
                  definition.location)
            analysis.types toTypes
        ∧ List.Forall₂
            (fun call arrow => ∃ target, call.target = some target
              ∧ arrow.LeadsTo view .function target.source target.path target.location)
            analysis.calls toTargets
        ∧ List.Forall₂
            (fun stored arrow =>
              arrow.LeadsTo view .stateVariable stored.source stored.path stored.location)
            analysis.stateVariables toVariables
  reached
    : ∀ block ∈ view.blocks,
        block = analysis.mainBlock ∨ ∃ arrow ∈ view.arrows, arrow.targetBlock = block.id

/-- The arrow of a dependency leads to what its block displays. -/
theorem Dependency.DrawnAs.leadsTo (drawn : dependency.DrawnAs arrow)
    (ids : (view.blocks.map (·.id)).Nodup) (shown : dependency.block ∈ view.blocks)
    (displays : dependency.block.Displays category source path location)
    : arrow.LeadsTo view category source path location := by
  refine ⟨drawn.source, drawn.line.trans displays.startLine,
    drawn.category.trans displays.category, dependency.block, ?_, displays⟩
  rw [drawn.target]
  exact filter_key_eq ids shown

/-- Every block but the main one has an arrow that leads to it. -/
theorem View.Connects.reached (connects : view.Connects main done) (block : Block)
    (member : block ∈ view.blocks)
    : block = main ∨ ∃ arrow ∈ view.arrows, arrow.targetBlock = block.id := by
  rcases connects.blocks.known block member with isMain | ⟨dependency, listed, rfl⟩
  · exact .inl isMain
  · obtain ⟨arrow, drawn, drawnAs⟩ := forall₂_mem_right connects.arrows.flip dependency listed
    exact .inr ⟨arrow, drawn, drawnAs.target⟩

/-- The view of an analysis that found definitions shows the analysis. -/
theorem Analysis.Resolved.view_shows (resolved : analysis.Resolved)
    : analysis.view.Shows analysis := by
  have connects := resolved.view_connects
  have ids := connects.blocks.ids
  have drawn
      : List.Forall₂
          (fun dependency arrow =>
            dependency.block ∈ analysis.view.blocks ∧ dependency.DrawnAs arrow)
          analysis.dependencies analysis.view.arrows :=
    (List.forall₂_and_left _ _).mpr ⟨connects.blocks.shown, connects.arrows⟩
  obtain ⟨front, toVariables, split, inFront, forVariables⟩ := exists_append_of_forall₂ drawn
  obtain ⟨toTypes, toTargets, rfl, forTypes, forCalls⟩ := exists_append_of_forall₂ inFront
  refine ⟨⟨connects.blocks.first, rfl⟩, ids, connects.ids,
    ⟨toTypes, toTargets, toVariables, split, ?_, ?_, ?_⟩, connects.reached⟩
  · have made := forall₂_of_filterMap (by
      intro reference listed
      obtain ⟨definition, shows⟩ := resolved.types reference listed
      obtain ⟨block, found, -⟩ := shows.exists_block
      simp [found]) forTypes
    refine ((List.forall₂_and_left _ _).mpr ⟨resolved.types, made⟩).imp ?_
    rintro reference arrow ⟨⟨definition, shows⟩, dependency, made, shown, drawnAs⟩
    obtain ⟨block, found, -, displays⟩ := shows.exists_block
    rw [found] at made
    obtain rfl := Option.some.inj made
    exact ⟨definition, shows.defined, drawnAs.leadsTo ids shown displays⟩
  · have made := forall₂_of_filterMap (by
      intro call listed
      obtain ⟨target, known, -⟩ := resolved.calls call listed
      simp [known]) forCalls
    refine made.imp ?_
    rintro call arrow ⟨dependency, made, shown, drawnAs⟩
    obtain ⟨target, known, rfl⟩ := Option.map_eq_some_iff.mp made
    exact ⟨target, known, drawnAs.leadsTo ids shown ⟨rfl, rfl, rfl, rfl⟩⟩
  · rw [List.forall₂_map_left_iff] at forVariables
    refine forVariables.imp ?_
    rintro stored arrow ⟨shown, drawnAs⟩
    exact drawnAs.leadsTo ids shown ⟨rfl, rfl, rfl, rfl⟩

/-- An analysis of a function of a workspace finds definitions. -/
theorem Workspace.resolved_of_analysisOf {workspace : Workspace} {settings : Settings}
    {function : FunctionDecl} {current : Option String}
    (done : workspace.analysisOf settings function current = .ok analysis)
    : analysis.Resolved := by
  simp only [analysisOf, bind_eq_ok_iff] at done
  obtain ⟨types, typesKnown, calls, callsKnown, made⟩ := done
  obtain rfl := pure_eq_ok_iff.mp made
  obtain ⟨definitions, typeNames⟩ := typesOf_spec typesKnown
  have targets := callsOf_spec callsKnown
  refine ⟨definitions, typeNames, ?_, ?_, nodup_variablesOf⟩
  · intro call listed
    obtain ⟨target, known, found⟩ := targets call listed
    exact ⟨target, known, name_of_resolveFunctionIn found⟩
  · intro call listed other otherListed same
    obtain ⟨target, known, found⟩ := targets call listed
    obtain ⟨target', known', found'⟩ := targets other otherListed
    rw [known, known', ← found, ← found', same]

/-- For every function, seen from any file, and all settings that answer there is an analysis, and
the view of every analysis shows it.
-/
theorem Workspace.view_shows_analysisOf (workspace : Workspace) (settings : Settings)
    (function : FunctionDecl) (current : Option String)
    : (settings.AnswersAnalysis
        → ∃ analysis, workspace.analysisOf settings function current = .ok analysis)
      ∧ ∀ analysis, workspace.analysisOf settings function current = .ok analysis
        → analysis.view.Shows analysis := by
  refine ⟨fun answers => exists_analysisOf answers workspace function current, ?_⟩
  intro analysis done
  exact (resolved_of_analysisOf done).view_shows

/-- A function that uses a struct and a state variable and calls another function twice. -/
def addFunction : FunctionDecl :=
  { name := "add"
    visibility := "public"
    mutability := none
    parameters := []
    returns := []
    modifiers := []
    body := "\x7b Point memory p; step(count); this.step(p.x); \x7d"
    source := "function add() public \x7b Point memory p; step(count); this.step(p.x); \x7d"
    location := ⟨⟨4, 2⟩, ⟨4, 71⟩⟩
    path := "bank.sol"
    contract := some "Bank" }

/-- The function that is called. -/
def stepFunction : FunctionDecl :=
  { addFunction with
    name := "step"
    body := "\x7b \x7d"
    source := "function step(uint n) public \x7b \x7d"
    location := ⟨⟨5, 2⟩, ⟨5, 33⟩⟩ }

/-- The struct that is used. -/
def pointStruct : StructDecl :=
  { name := "Point"
    members := [{ name := "x", typeName := "uint" }]
    source := "struct Point \x7b uint x; \x7d"
    location := ⟨⟨2, 2⟩, ⟨2, 25⟩⟩
    path := "bank.sol"
    contract := some "Bank" }

/-- The state variable that is used. -/
def countVariable : StateVariable :=
  { name := "count"
    typeName := "uint"
    visibility := "default"
    source := "uint count;"
    location := ⟨⟨3, 2⟩, ⟨3, 12⟩⟩
    path := "bank.sol"
    contract := "Bank" }

/-- The file of both functions. -/
def bankOutline : FileOutline :=
  { FileOutline.empty "bank.sol" with
    contracts :=
      [{ name := "Bank"
         kind := .contract
         functions := [addFunction, stepFunction]
         structs := [pointStruct]
         enums := []
         stateVariables := [countVariable]
         bases := []
         location := ⟨⟨1, 0⟩, ⟨6, 0⟩⟩
         path := "bank.sol" }] }

/-- What the function depends on. -/
def addAnalysis : Analysis :=
  { function := addFunction
    contract := some "Bank"
    types := [.toStruct "Point" pointStruct]
    calls :=
      [{ name := "step"
         expression := "step"
         arguments := ["count"]
         location := ⟨⟨4, 40⟩, ⟨4, 45⟩⟩
         target := some stepFunction },
       { name := "step"
         expression := "this.step"
         arguments := ["p.x"]
         location := ⟨⟨4, 53⟩, ⟨4, 63⟩⟩
         target := some stepFunction }]
    stateVariables := [countVariable] }

/-- The two calls on one line have one block and two arrows, the second of them numbered. -/
theorem Workspace.view_shows_analysisOf_bank
    : let workspace := Workspace.ofFiles [bankOutline] []
      let settings := SettingTables.default.settings
      settings.AnswersAnalysis
      ∧ workspace.analysisOf settings addFunction none = .ok addAnalysis
      ∧ addAnalysis.view.blocks.map (·.id)
        = ["main", "struct-Point", "function-step", "statevar-count"]
      ∧ addAnalysis.view.arrows.map (·.id)
        = ["arrow-main-struct-Point-4", "arrow-main-function-step-4",
           "arrow-main-function-step-4-2", "arrow-main-statevar-count-4"]
      ∧ addAnalysis.view.Shows addAnalysis := by
  intro workspace settings
  have answers : settings.AnswersAnalysis := ⟨⟨_, rfl⟩, ⟨_, rfl⟩, ⟨_, rfl⟩⟩
  have done : workspace.analysisOf settings addFunction none = .ok addAnalysis := rfl
  have shows := (view_shows_analysisOf workspace settings addFunction none).2
  exact ⟨answers, done, rfl, rfl, shows addAnalysis done⟩

end SolidityAtlas
