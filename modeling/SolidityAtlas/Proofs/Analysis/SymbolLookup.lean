import SolidityAtlas.Analysis.Lookup
import SolidityAtlas.Proofs.Outline.Placement
import SolidityAtlas.Proofs.Workspace.Revisions
import Mathlib.Data.List.Flatten

/-! What a lookup without a hint reports, against all definitions of a name in the workspace. For
functions and state variables it collects every definition. For types it collects the first
definition of the name in each file and asks for the kind afterwards, so structs and enums may be
hidden by each other, and two types of one file count as one.
-/

namespace SolidityAtlas

-----------------------------------------------------------------------------------------
-- Definitions
-----------------------------------------------------------------------------------------

/-- A kind that asks for types. -/
def LookupKind.OfTypes : LookupKind → Prop
  | .struct | .enum | .type => True
  | .function | .stateVariable => False

/-- Whether a kind asks for a type. -/
def LookupKind.asksFor (kind : LookupKind) : TypeDefinition → Bool
  | .struct _ => kind = .struct ∨ kind = .type
  | .enum _ => kind = .enum ∨ kind = .type

/-- The definitions of a file that a kind asks for, in contracts and at file level. -/
def FileOutline.definitions (file : FileOutline) (kind : LookupKind) : List Definition :=
  match kind with
  | .function => file.allFunctions.map .function
  | .stateVariable => file.stateVariables.map .stateVariable
  | .struct | .enum | .type => (file.types.filter kind.asksFor).map .type

/-- The definitions of a kind and a name in a file. -/
def FileOutline.definitionsOf (file : FileOutline) (kind : LookupKind) (name : String)
    : List Definition :=
  (file.definitions kind).filter fun definition => definition.name = name

/-- The definitions of a kind and a name in a workspace, file by file. -/
def Workspace.definitionsOf (workspace : Workspace) (kind : LookupKind) (name : String)
    : List Definition :=
  workspace.files.items.flatMap fun file => file.definitionsOf kind name

/-- The result of a finding is a definition, and there is no result of another sort. -/
def Finding.Shows (finding : Finding) : Definition → Prop
  | .type definition =>
      finding.type = some (.toDefinition finding.name definition)
      ∧ finding.function = none ∧ finding.stateVariable = none
  | .function declared =>
      finding.type = none ∧ finding.function = some declared ∧ finding.stateVariable = none
  | .stateVariable stored =>
      finding.type = none ∧ finding.function = none ∧ finding.stateVariable = some stored

/-- A finding reports definitions: it succeeds when there are any, shows the first one, is ambiguous
when there are more, and lists the files of all of them.
-/
structure Finding.Reports (finding : Finding) (candidates : List Definition) : Prop where
  success : finding.success = true ↔ candidates ≠ []
  shown : ∀ first, candidates.head? = some first → finding.Shows first
  ambiguous : finding.ambiguous = true ↔ 2 ≤ candidates.length
  files : finding.files = distinct (candidates.map (·.path))

variable {workspace : Workspace} {file : FileOutline} {kind : LookupKind} {name : String}
  {finding : Finding} {first : Definition} {rest : List Definition}

/-- A finding without a definition reports none. -/
theorem reports_notFound : (Finding.notFound name kind).Reports [] := by
  refine ⟨?_, ?_, ?_, rfl⟩
  · simp [Finding.notFound]
  · intro first none
    cases none
  · simp [Finding.notFound]

/-- A successful finding reports the definition that it shows and the others that it counts. -/
theorem reports_cons (success : finding.success = true) (shown : finding.Shows first)
    (ambiguous : finding.ambiguous = !rest.isEmpty)
    (files : finding.files = distinct ((first :: rest).map (·.path)))
    : finding.Reports (first :: rest) := by
  refine ⟨by simp [success], ?_, ?_, files⟩
  · intro other same
    exact Option.some.inj same ▸ shown
  · rw [ambiguous]
    cases rest <;> simp

-----------------------------------------------------------------------------------------
-- What lookups collect
-----------------------------------------------------------------------------------------

/-- The first type of a name in a file. -/
def FileOutline.firstType (file : FileOutline) (name : String) : Option TypeDefinition :=
  file.types.find? fun definition => definition.name = name

/-- What a lookup takes from a file: all functions and state variables of the name, but of its types
only the first one, and this one only if the kind asks for it.
-/
def FileOutline.candidates (file : FileOutline) (kind : LookupKind) (name : String)
    : List Definition :=
  match kind with
  | .function | .stateVariable => file.definitionsOf kind name
  | .struct | .enum | .type => ((file.firstType name).filter kind.asksFor).toList.map .type

/-- What a lookup takes from a workspace, file by file. -/
def Workspace.candidates (workspace : Workspace) (kind : LookupKind) (name : String)
    : List Definition :=
  workspace.files.items.flatMap fun file => file.candidates kind name

/-- A kind of type takes the first type of a file, if it asks for it. -/
theorem FileOutline.candidates_ofTypes (ofTypes : kind.OfTypes)
    : file.candidates kind name
      = ((file.firstType name).filter kind.asksFor).toList.map .type := by
  cases kind with
  | struct | enum | type => rfl
  | function | stateVariable => cases ofTypes

/-- The other kinds take all definitions of a file. -/
theorem FileOutline.candidates_of_not_ofTypes (others : ¬ kind.OfTypes)
    : file.candidates kind name = file.definitionsOf kind name := by
  cases kind with
  | struct | enum | type => exact absurd trivial others
  | function | stateVariable => rfl

namespace Workspace

/-- A kind of type accepts a reference when it asks for its definition. -/
theorem accepts_toDefinition (ofTypes : kind.OfTypes) (shown : String)
    (definition : TypeDefinition)
    : kind.accepts (.toDefinition shown definition) = kind.asksFor definition := by
  cases kind with
  | struct | enum | type => cases definition <;> rfl
  | function | stateVariable => cases ofTypes

/-- The types that a bare name without a hint may mean are the candidates of the files. -/
theorem typesFor_bare (ofTypes : kind.OfTypes) (bare : '.' ∉ name.toList)
    : ∃ types : List TypeDefinition,
        workspace.candidates kind name = types.map .type
        ∧ workspace.typesFor { kind := kind, name := name, contract := none }
          = types.map (.toDefinition name) := by
  have accepted : kind.accepts ∘ TypeReference.toDefinition name = kind.asksFor :=
    funext fun definition => accepts_toDefinition ofTypes name definition
  refine ⟨workspace.files.items.flatMap fun file =>
    ((file.firstType name).filter kind.asksFor).toList, ?_, ?_⟩
  · simp only [candidates, FileOutline.candidates_ofTypes ofTypes, List.map_flatMap]
  · simp only [typesFor, Option.filter_none, List.isEmpty_nil, if_true, typesOfKind, typesNamed,
      filesFrom, TypeQuery.ofName_of_not_mem bare, findType_bare]
    rw [← List.map_filterMap, List.filter_map, accepted, List.filter_filterMap,
      List.filterMap_eq_flatMap_toList]
    rfl

/-- A lookup of a type reports its candidates. -/
theorem typeFinding_reports (ofTypes : kind.OfTypes) (bare : '.' ∉ name.toList)
    : (workspace.typeFinding { kind := kind, name := name, contract := none }).Reports
        (workspace.candidates kind name) := by
  obtain ⟨types, taken, asked⟩ := workspace.typesFor_bare ofTypes bare
  rw [typeFinding, asked, taken]
  cases types with
  | nil => exact reports_notFound
  | cons first rest =>
      refine reports_cons rfl ⟨rfl, rfl, rfl⟩ (by simp [Finding.found]) ?_
      simp [Finding.found, TypeReference.toDefinition, Definition.path, Function.comp_def]

/-- A lookup of a function reports its candidates. -/
theorem functionFinding_reports (bare : '.' ∉ name.toList)
    : (workspace.functionFinding name).Reports (workspace.candidates .function name) := by
  have all
      : workspace.candidates .function name
        = (workspace.functionsNamed name).map .function := by
    simp only [candidates, FileOutline.candidates, FileOutline.definitionsOf,
      FileOutline.definitions, functionsNamed, filesFrom,
      Text.unqualified_of_not_mem bare, List.map_flatMap, List.filter_map]
    rfl
  rw [functionFinding, all]
  cases workspace.functionsNamed name with
  | nil => exact reports_notFound
  | cons first rest =>
      refine reports_cons rfl ⟨rfl, rfl, rfl⟩ (by simp [Finding.found]) ?_
      simp [Finding.found, Definition.path, Function.comp_def]

/-- Without a hint a state variable is the first one of its name. -/
theorem resolveVariable_none
    : workspace.resolveVariable name none none = (workspace.variablesNamed name).head? := by
  simp only [resolveVariable_eq_findSome?, filesFrom, variablesNamed_eq, List.head?_flatMap,
    List.head?_filter]

/-- A lookup of a state variable reports its candidates. -/
theorem variableFinding_reports
    : (workspace.variableFinding name none).Reports
        (workspace.candidates .stateVariable name) := by
  have all
      : workspace.candidates .stateVariable name
        = (workspace.variablesNamed name).map .stateVariable := by
    simp only [candidates, FileOutline.candidates, FileOutline.definitionsOf,
      FileOutline.definitions, variablesNamed_eq, List.map_flatMap, List.filter_map]
    rfl
  rw [variableFinding, resolveVariable_none, all]
  cases workspace.variablesNamed name with
  | nil => exact reports_notFound
  | cons first rest =>
      refine reports_cons rfl ⟨rfl, rfl, rfl⟩ ?_ ?_
      · cases rest <;> simp [Finding.found]
      · simp [Finding.found, Definition.path, Function.comp_def]

/-- A lookup of a bare name without a hint reports its candidates. -/
theorem lookup_reports (kind : LookupKind) (bare : '.' ∉ name.toList)
    : (workspace.lookup { kind := kind, name := name, contract := none }).Reports
        (workspace.candidates kind name) := by
  cases kind with
  | struct | enum | type => exact typeFinding_reports trivial bare
  | function => exact functionFinding_reports bare
  | stateVariable => exact variableFinding_reports

end Workspace

-----------------------------------------------------------------------------------------
-- What lookups miss
-----------------------------------------------------------------------------------------

/-- If a kind asks for a type of a name in a file, then it asks for the first one of this name. -/
def FileOutline.Unshadowed (file : FileOutline) (kind : LookupKind) (name : String) : Prop :=
  (∃ definition ∈ file.types, definition.name = name ∧ kind.asksFor definition = true)
    → (file.firstType name).any kind.asksFor = true

instance : Decidable (file.Unshadowed kind name) :=
  inferInstanceAs (Decidable (_ → _))

namespace FileOutline

/-- Only structs and enums shadow each other. -/
theorem unshadowed_of_not (other : ¬ (kind = .struct ∨ kind = .enum))
    : file.Unshadowed kind name := by
  rintro ⟨definition, listed, named, asked⟩
  cases kind with
  | struct | enum => simp at other
  | function | stateVariable => cases definition <;> cases asked
  | type =>
      have answered : (file.firstType name).isSome := by
        rw [firstType, List.find?_isSome]
        exact ⟨definition, listed, by simpa using named⟩
      obtain ⟨first, found⟩ := Option.isSome_iff_exists.mp answered
      rw [found]
      cases first <;> rfl

/-- The definitions of a name that a kind of type asks for are types of the name. -/
theorem definitionsOf_ofTypes (ofTypes : kind.OfTypes)
    : file.definitionsOf kind name
      = ((file.types.filter fun definition => definition.name = name).filter
          kind.asksFor).map .type := by
  rw [List.filter_comm]
  cases kind with
  | struct | enum | type =>
      rw [definitionsOf, definitions, List.filter_map]
      rfl
  | function | stateVariable => cases ofTypes

/-- What a lookup takes from a file is a selection of its definitions of the name. -/
theorem candidates_sublist
    : (file.candidates kind name).Sublist (file.definitionsOf kind name) := by
  by_cases ofTypes : kind.OfTypes
  · -- of the types of the name, in order, a lookup sees the first one
    have first
        : (file.firstType name).toList.Sublist
            (file.types.filter fun definition => definition.name = name) := by
      rw [firstType, ← List.head?_filter]
      cases file.types.filter fun definition => definition.name = name with
      | nil => exact .slnil
      | cons head rest => simp
    rw [candidates_ofTypes ofTypes, definitionsOf_ofTypes ofTypes, Option.toList_filter]
    exact (first.filter _).map _
  · rw [candidates_of_not_ofTypes ofTypes]

/-- There is a type of a name that a kind asks for exactly when there is a definition of both. -/
theorem exists_type_iff (ofTypes : kind.OfTypes)
    : (∃ definition ∈ file.types, definition.name = name ∧ kind.asksFor definition = true)
      ↔ file.definitionsOf kind name ≠ [] := by
  simp [definitionsOf_ofTypes ofTypes, List.filter_eq_nil_iff, and_comm]

/-- A lookup takes something from a file exactly when the file has a definition of the name and none
that is shadowed.
-/
theorem candidates_ne_nil_iff
    : file.candidates kind name ≠ []
      ↔ file.Unshadowed kind name ∧ file.definitionsOf kind name ≠ [] := by
  by_cases ofTypes : kind.OfTypes
  · have taken
        : file.candidates kind name ≠ [] ↔ (file.firstType name).any kind.asksFor = true := by
      rw [candidates_ofTypes ofTypes]
      cases file.firstType name with
      | none => simp
      | some first => cases asked : kind.asksFor first <;> simp [asked]
    rw [taken, ← exists_type_iff ofTypes]
    constructor
    · intro answered
      obtain ⟨first, found, asked⟩ := (Option.any_eq_true _ _).mp answered
      have named : first.name = name := by simpa using List.find?_some found
      exact ⟨fun _ => answered, first, List.mem_of_find?_eq_some found, named, asked⟩
    · rintro ⟨unshadowed, defined⟩
      exact unshadowed defined
  · have unshadowed : file.Unshadowed kind name := by
      refine unshadowed_of_not ?_
      rintro (rfl | rfl) <;> exact ofTypes trivial
    rw [candidates_of_not_ofTypes ofTypes]
    exact (and_iff_right unshadowed).symm

/-- A lookup of a type takes one definition from a file that has one and none that is shadowed, and
nothing from other files.
-/
theorem length_candidates (ofTypes : kind.OfTypes)
    : (file.candidates kind name).length
      = if file.Unshadowed kind name ∧ file.definitionsOf kind name ≠ [] then 1 else 0 := by
  have atMostOne : (file.candidates kind name).length ≤ 1 := by
    rw [candidates_ofTypes ofTypes, List.length_map]
    exact Option.length_toList_le
  split
  · rename_i defined
    have taken := List.length_pos_iff.mpr (candidates_ne_nil_iff.mpr defined)
    omega
  · rename_i undefined
    rw [List.length_eq_zero_iff]
    exact not_not.mp (mt candidates_ne_nil_iff.mp undefined)

/-- Where nothing is shadowed, a lookup takes nothing from a file only if there is no definition. -/
theorem candidates_eq_nil_iff (unshadowed : file.Unshadowed kind name)
    : file.candidates kind name = [] ↔ file.definitionsOf kind name = [] := by
  rw [← not_iff_not, ← ne_eq, candidates_ne_nil_iff]
  exact and_iff_right unshadowed

/-- A lookup takes the only definition of a name from a file, if it is not shadowed. -/
theorem candidates_eq (unshadowed : file.Unshadowed kind name)
    (once : (file.definitionsOf kind name).length ≤ 1)
    : file.candidates kind name = file.definitionsOf kind name := by
  refine candidates_sublist.eq_of_length_le ?_
  by_cases empty : file.candidates kind name = []
  · simp [(candidates_eq_nil_iff unshadowed).mp empty]
  · have taken := List.length_pos_iff.mpr empty
    omega

end FileOutline

namespace Workspace

/-- What a lookup takes from a workspace is a selection of its definitions of the name. -/
theorem candidates_sublist
    : (workspace.candidates kind name).Sublist (workspace.definitionsOf kind name) :=
  .flatMap_right _ fun _ _ => FileOutline.candidates_sublist

/-- A lookup of a type takes as many definitions as there are files that have one and none that is
shadowed. Induction on the files.
-/
theorem length_candidates (ofTypes : kind.OfTypes)
    : (workspace.candidates kind name).length
      = workspace.files.items.countP fun file =>
          file.Unshadowed kind name ∧ file.definitionsOf kind name ≠ [] := by
  rw [candidates]
  induction workspace.files.items with
  | nil => rfl
  | cons file rest ih =>
      rw [List.flatMap_cons, List.length_append, ih, List.countP_cons,
        FileOutline.length_candidates ofTypes, Nat.add_comm]
      simp only [decide_eq_true_eq]

/-- No definition in a workspace that a kind asks for is shadowed; only structs and enums can be. -/
def Unshadowed (workspace : Workspace) (kind : LookupKind) (name : String) : Prop :=
  kind = .struct ∨ kind = .enum
    → ∀ file ∈ workspace.files.items, file.Unshadowed kind name

/-- In a workspace where nothing is shadowed nothing is shadowed in a file. -/
theorem Unshadowed.of_mem (unshadowed : workspace.Unshadowed kind name)
    (listed : file ∈ workspace.files.items)
    : file.Unshadowed kind name := by
  by_cases shadowing : kind = .struct ∨ kind = .enum
  · exact unshadowed shadowing file listed
  · exact FileOutline.unshadowed_of_not shadowing

/-- No file has two types of a name that a kind asks for. -/
def DefinesOnce (workspace : Workspace) (kind : LookupKind) (name : String) : Prop :=
  kind.OfTypes
    → ∀ file ∈ workspace.files.items, (file.definitionsOf kind name).length ≤ 1

/-- Where nothing is shadowed and no file defines two types of the name, a lookup takes all
definitions.
-/
theorem candidates_eq_definitionsOf (unshadowed : workspace.Unshadowed kind name)
    (once : workspace.DefinesOnce kind name)
    : workspace.candidates kind name = workspace.definitionsOf kind name := by
  refine List.flatMap_congr fun file listed => ?_
  by_cases ofTypes : kind.OfTypes
  · exact FileOutline.candidates_eq (unshadowed.of_mem listed) (once ofTypes file listed)
  · exact FileOutline.candidates_of_not_ofTypes ofTypes

/-- The types of every file name the file. -/
def Placed (workspace : Workspace) : Prop :=
  ∀ file ∈ workspace.files.items, AllAt file.path file.types

/-- The types of a workspace that was built name their files. -/
theorem placed_of_build {parser : Parser} {sources : Sources}
    (built : build parser sources = .ok workspace)
    : workspace.Placed := by
  intro file listed definition member
  obtain ⟨tree, source, outlined⟩ := exists_outlineOf_of_build built listed
  exact path_of_mem_types outlined member

/-- The types in a placed workspace that a kind asks for name their files. -/
theorem Placed.path_eq (placed : workspace.Placed) (ofTypes : kind.OfTypes)
    (listed : file ∈ workspace.files.items) {path : String}
    (member : path ∈ (file.definitionsOf kind name).map (·.path))
    : path = file.path := by
  rw [FileOutline.definitionsOf_ofTypes ofTypes, List.map_map] at member
  obtain ⟨definition, kept, rfl⟩ := List.mem_map.mp member
  exact placed file listed definition (List.mem_filter.mp (List.mem_filter.mp kept).1).1

/-- Where nothing is shadowed, the files of what a lookup takes are the files of all definitions. -/
theorem distinct_path_candidates (unshadowed : workspace.Unshadowed kind name)
    (placed : workspace.Placed)
    : distinct ((workspace.candidates kind name).map (·.path))
      = distinct ((workspace.definitionsOf kind name).map (·.path)) := by
  rw [candidates, definitionsOf, List.map_flatMap, List.map_flatMap]
  by_cases ofTypes : kind.OfTypes
  · refine distinct_flatMap_congr ?_ (fun file listed path => placed.path_eq ofTypes listed) ?_
    · intro file listed path labels
      exact placed.path_eq ofTypes listed ((FileOutline.candidates_sublist.map _).subset labels)
    · intro file listed
      rw [List.map_eq_nil_iff, List.map_eq_nil_iff,
        FileOutline.candidates_eq_nil_iff (unshadowed.of_mem listed)]
  · simp only [FileOutline.candidates_of_not_ofTypes ofTypes]

/-- A lookup of a bare name without a hint succeeds exactly when some file has a definition of the
name and none that is shadowed. So it finds every function, state variable and type of either sort,
and every struct or enum where none is shadowed; and what it finds is a definition of the kind and
name that it was asked for, with no result of another sort.
-/
theorem lookup_success_iff (workspace : Workspace) (kind : LookupKind) (bare : '.' ∉ name.toList)
    : let finding := workspace.lookup { kind := kind, name := name, contract := none }
      (finding.success = true
        ↔ ∃ file ∈ workspace.files.items,
            file.Unshadowed kind name ∧ file.definitionsOf kind name ≠ [])
      ∧ (workspace.Unshadowed kind name
        → (finding.success = true ↔ workspace.definitionsOf kind name ≠ []))
      ∧ (finding.success = true
        → ∃ definition ∈ workspace.definitionsOf kind name, finding.Shows definition) := by
  intro finding
  have reports : finding.Reports (workspace.candidates kind name) := lookup_reports kind bare
  have succeeds
      : finding.success = true
        ↔ ∃ file ∈ workspace.files.items,
            file.Unshadowed kind name ∧ file.definitionsOf kind name ≠ [] := by
    simp only [reports.success, candidates, ne_eq, List.flatMap_eq_nil_iff, not_forall,
      exists_prop, ← FileOutline.candidates_ne_nil_iff]
  refine ⟨succeeds, ?_, ?_⟩
  · intro unshadowed
    simp only [succeeds, definitionsOf, ne_eq, List.flatMap_eq_nil_iff, not_forall, exists_prop]
    constructor
    · rintro ⟨file, listed, -, defined⟩
      exact ⟨file, listed, defined⟩
    · rintro ⟨file, listed, defined⟩
      exact ⟨file, listed, unshadowed.of_mem listed, defined⟩
  · intro success
    cases taken : workspace.candidates kind name with
    | nil => exact absurd taken (reports.success.mp success)
    | cons first rest =>
        have member : first ∈ workspace.candidates kind name := taken ▸ List.mem_cons_self
        exact ⟨first, candidates_sublist.subset member, reports.shown first (by simp [taken])⟩

/-- A struct with one member in a contract. -/
def sampleStruct (name owner path : String) : StructDecl :=
  { name := name
    members := [{ name := "amount", typeName := "uint" }]
    source := "struct " ++ name ++ " \x7b uint amount; \x7d"
    location := .origin
    path := path
    contract := some owner }

/-- An enum with one member in a contract. -/
def sampleEnum (name owner path : String) : EnumDecl :=
  { name := name
    members := ["Open"]
    source := "enum " ++ name ++ " \x7b Open \x7d"
    location := .origin
    path := path
    contract := some owner }

/-- A contract that only defines types. -/
def sampleContract (name path : String) (structs : List StructDecl) (enums : List EnumDecl)
    : ContractDecl :=
  { name := name
    kind := .contract
    functions := []
    structs := structs
    enums := enums
    stateVariables := []
    bases := []
    location := .origin
    path := path }

/-- A file where one contract defines a struct and a later one an enum of the same name. -/
def statusOutline : FileOutline :=
  { FileOutline.empty "status.sol" with
    contracts :=
      [sampleContract "A" "status.sol" [sampleStruct "Status" "A" "status.sol"] [],
       sampleContract "B" "status.sol" [] [sampleEnum "Status" "B" "status.sol"]] }

/-- The workspace of the file. -/
def statusWorkspace : Workspace :=
  .ofFiles [statusOutline] []

/-- The struct is found and the enum behind it is not. -/
theorem lookup_success_iff_status
    : '.' ∉ "Status".toList
      ∧ statusWorkspace.Unshadowed .struct "Status"
      ∧ (∃ definition ∈ statusWorkspace.definitionsOf .struct "Status",
          (statusWorkspace.lookup { kind := .struct, name := "Status", contract := none }).Shows
            definition)
      ∧ (statusWorkspace.lookup { kind := .enum, name := "Status", contract := none }).success
        = false := by
  have bare : '.' ∉ "Status".toList := by decide
  have unshadowed : statusWorkspace.Unshadowed .struct "Status" := fun _ => by decide
  obtain ⟨-, structs, shown⟩ := lookup_success_iff statusWorkspace .struct bare
  obtain ⟨enums, -, -⟩ := lookup_success_iff statusWorkspace .enum bare
  refine ⟨bare, unshadowed, shown ((structs unshadowed).mpr (by decide)), ?_⟩
  rw [← Bool.not_eq_true, enums]
  decide

/-- A lookup of an enum fails although an enum of the name is defined. -/
theorem lookup_not_success_iff
    : ∃ (workspace : Workspace) (kind : LookupKind) (name : String),
        '.' ∉ name.toList
        ∧ workspace.definitionsOf kind name ≠ []
        ∧ (workspace.lookup { kind := kind, name := name, contract := none }).success = false :=
  ⟨statusWorkspace, .enum, "Status", by decide, by decide, by decide⟩

/-- A lookup of a bare name without a hint says that the name is ambiguous only if there are several
definitions, and lists files of definitions only, each once. For types it counts the files that have
a definition and none that is shadowed. Where no definition is shadowed it lists the files of all
definitions in order. Where no file defines two types of the name either, it says that the name is
ambiguous exactly when there are several definitions.
-/
theorem lookup_ambiguous_iff (workspace : Workspace) (kind : LookupKind)
    (bare : '.' ∉ name.toList)
    : let finding := workspace.lookup { kind := kind, name := name, contract := none }
      let definitions := workspace.definitionsOf kind name
      (finding.ambiguous = true → 2 ≤ definitions.length)
      ∧ finding.files.Nodup
      ∧ (∀ path ∈ finding.files, ∃ definition ∈ definitions, definition.path = path)
      ∧ (kind.OfTypes
        → (finding.ambiguous = true
          ↔ 2 ≤ workspace.files.items.countP fun file =>
              file.Unshadowed kind name ∧ file.definitionsOf kind name ≠ []))
      ∧ (workspace.Unshadowed kind name → workspace.Placed
        → finding.files = distinct (definitions.map (·.path)))
      ∧ (workspace.Unshadowed kind name → workspace.DefinesOnce kind name
        → (finding.ambiguous = true ↔ 2 ≤ definitions.length)
          ∧ finding.files = distinct (definitions.map (·.path))) := by
  intro finding definitions
  have reports : finding.Reports (workspace.candidates kind name) := lookup_reports kind bare
  have selected : (workspace.candidates kind name).Sublist definitions := candidates_sublist
  refine ⟨?_, ?_, ?_, ?_, ?_, ?_⟩
  · intro ambiguous
    exact Nat.le_trans (reports.ambiguous.mp ambiguous) selected.length_le
  · rw [reports.files]
    simpa [distinct] using nodup_map_distinctBy id ((workspace.candidates kind name).map (·.path))
  · intro path listed
    rw [reports.files] at listed
    obtain ⟨definition, taken, stored⟩ := List.mem_map.mp (mem_of_mem_distinctBy listed)
    exact ⟨definition, selected.subset taken, stored⟩
  · intro ofTypes
    rw [reports.ambiguous, length_candidates ofTypes]
  · intro unshadowed placed
    rw [reports.files]
    exact distinct_path_candidates unshadowed placed
  · intro unshadowed once
    have all : workspace.candidates kind name = definitions :=
      candidates_eq_definitionsOf unshadowed once
    exact ⟨all ▸ reports.ambiguous, all ▸ reports.files⟩

/-- A file where two contracts define a struct of the same name. -/
def poolsOutline (path : String) (owners : List String) : FileOutline :=
  { FileOutline.empty path with
    contracts := owners.map fun owner =>
      sampleContract owner path [sampleStruct "Pool" owner path] [] }

/-- The workspace of two files with one of the contracts each. -/
def poolsWorkspace : Workspace :=
  .ofFiles [poolsOutline "a.sol" ["A"], poolsOutline "b.sol" ["B"]] []

/-- A struct that is defined in two files is ambiguous, and both files are listed. -/
theorem lookup_ambiguous_iff_pools
    : '.' ∉ "Pool".toList
      ∧ poolsWorkspace.Unshadowed .struct "Pool"
      ∧ poolsWorkspace.DefinesOnce .struct "Pool"
      ∧ poolsWorkspace.Placed
      ∧ let finding :=
          poolsWorkspace.lookup { kind := .struct, name := "Pool", contract := none }
        finding.ambiguous = true ∧ finding.files = ["a.sol", "b.sol"] := by
  have bare : '.' ∉ "Pool".toList := by decide
  have unshadowed : poolsWorkspace.Unshadowed .struct "Pool" := fun _ => by decide
  have once : poolsWorkspace.DefinesOnce .struct "Pool" := fun _ => by decide
  have placed : poolsWorkspace.Placed := by unfold Placed AllAt; decide
  obtain ⟨-, -, -, -, -, counted⟩ := lookup_ambiguous_iff poolsWorkspace .struct bare
  obtain ⟨ambiguous, files⟩ := counted unshadowed once
  refine ⟨bare, unshadowed, once, placed, ambiguous.mpr (by decide), ?_⟩
  rw [files]
  decide

/-- A lookup of a struct does not say that the name is ambiguous although two contracts of the same
file define one.
-/
theorem lookup_not_ambiguous_iff
    : ∃ (workspace : Workspace) (kind : LookupKind) (name : String),
        let finding := workspace.lookup { kind := kind, name := name, contract := none }
        '.' ∉ name.toList
        ∧ finding.success = true
        ∧ 2 ≤ (workspace.definitionsOf kind name).length
        ∧ finding.ambiguous = false :=
  ⟨.ofFiles [poolsOutline "pools.sol" ["A", "B"]] [], .struct, "Pool", by decide, by decide,
    by decide, by decide⟩

end Workspace

end SolidityAtlas
