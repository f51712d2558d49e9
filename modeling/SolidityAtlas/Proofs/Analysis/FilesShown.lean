import SolidityAtlas.CommandLine.Report
import SolidityAtlas.Proofs.Analysis.Provenance
import SolidityAtlas.Proofs.FirstWith

/-! The files that a lookup lists, against the file of the definition that it shows. The report of a
lookup takes the first of the files to be the one that is shown and prints the others. This is right
for types, functions and lookups without a hint. A state variable that was looked up with a hint may
be shown from any of the files, and they are listed as if there was no hint.
-/

namespace SolidityAtlas

variable {workspace : Workspace} {request : LookupRequest} {name path : String}
  {hint : Option String} {finding : Finding} {shown : Definition} {paths files : List String}
  {stored : StateVariable}

-----------------------------------------------------------------------------------------
-- Findings and their files
-----------------------------------------------------------------------------------------

/-- Of files that are listed once, one is the first if the others are those that come behind. -/
theorem head?_eq_some_iff_drop_eq_filter (distinct : files.Nodup) (listed : path ∈ files)
    : files.head? = some path ↔ files.drop 1 = files.filter (· ≠ path) := by
  cases files with
  | nil => cases listed
  | cons first rest =>
      obtain ⟨absent, -⟩ := List.nodup_cons.mp distinct
      rw [List.head?_cons, Option.some.injEq, List.drop_one, List.tail_cons]
      constructor
      · rintro rfl
        have others : rest.filter (· ≠ first) = rest := by
          refine List.filter_eq_self.mpr fun other member => decide_eq_true ?_
          exact fun same => absent (same ▸ member)
        rw [List.filter_cons_of_neg (by simp), others]
      · intro others
        by_contra different
        rw [List.filter_cons_of_pos (by simpa using different)] at others
        exact absent (others ▸ List.mem_cons_self)

/-- A finding shows one definition and nothing else, its files are listed without repetition, and
the definition is what its report shows.
-/
structure Finding.ShowsOne (finding : Finding) (shown : Definition) (paths : List String)
    : Prop where
  definitions : finding.definitions = [shown]
  files : finding.files = distinct paths
  report
    : ∃ title location source,
        Report.lookupText finding
          = Report.definitionText finding title shown.path location source

namespace Workspace

/-- A type that is found comes from the first of the files. -/
theorem typeFinding_shows (success : (workspace.typeFinding request).success = true)
    : ∃ shown rest, (workspace.typeFinding request).ShowsOne shown (shown.path :: rest) := by
  rw [typeFinding] at success ⊢
  cases found : workspace.typesFor request with
  | nil => simp [found, Finding.notFound] at success
  | cons first others =>
      have listed : first ∈ workspace.typesFor request := found ▸ List.mem_cons_self
      obtain ⟨file, -, query, answer⟩ := exists_findType_of_mem_typesFor listed
      obtain ⟨type, -, -, shows⟩ := exists_of_findType answer
      have defined : first.definition = some type := by
        rw [shows]
        rfl
      refine ⟨.type type, others.filterMap fun reference => reference.definition.map (·.path),
        ?_, ?_, first.kind.text ++ " " ++ first.name, type.location, type.source, ?_⟩
      · simp [Finding.definitions, Finding.found, defined]
      · simp [Finding.found, defined, Definition.path]
      · simp [Report.lookupText, Finding.found, defined, Definition.path]

/-- A function that is found comes from the first of the files. -/
theorem functionFinding_shows (success : (workspace.functionFinding name).success = true)
    : ∃ shown rest, (workspace.functionFinding name).ShowsOne shown (shown.path :: rest) := by
  rw [functionFinding] at success ⊢
  cases found : workspace.functionsNamed name with
  | nil => simp [found, Finding.notFound] at success
  | cons first others =>
      refine ⟨.function first, others.map (·.path), ?_, ?_, "function " ++ first.name,
        first.location, first.source, ?_⟩
      · simp [Finding.definitions, Finding.found]
      · simp [Finding.found, Definition.path]
      · simp [Report.lookupText, Finding.found, Definition.path]

/-- A state variable that is found is the one that the name stands for, and the files are those of
all state variables of the name.
-/
theorem variableFinding_shows (success : (workspace.variableFinding name hint).success = true)
    : ∃ stored,
        workspace.resolveVariable name hint none = some stored
        ∧ (workspace.variableFinding name hint).ShowsOne (.stateVariable stored)
            ((workspace.variablesNamed name).map (·.path)) := by
  rw [variableFinding] at success ⊢
  cases found : workspace.resolveVariable name hint none with
  | none => simp [found, Finding.notFound] at success
  | some stored =>
      refine ⟨stored, rfl, ?_, ?_, "statevar " ++ stored.name, stored.location, stored.source, ?_⟩
      · simp [Finding.definitions, Finding.found]
      · simp [Finding.found]
      · simp [Report.lookupText, Finding.found, Definition.path]

-----------------------------------------------------------------------------------------
-- State variables of a name
-----------------------------------------------------------------------------------------

/-- A state variable that a name stands for is one of those of the name. -/
theorem mem_variablesNamed_of_resolveVariable
    (found : workspace.resolveVariable name hint none = some stored)
    : stored ∈ workspace.variablesNamed name := by
  have listed (contracts : List ContractDecl) (known : contracts ⊆ workspace.contracts)
      (first : variableAmong contracts name = some stored)
      : stored ∈ workspace.variablesNamed name := by
    obtain ⟨contract, searched, inside⟩ := List.exists_of_findSome?_eq_some first
    exact List.mem_flatMap.mpr ⟨contract, known searched,
      List.mem_filter.mpr ⟨List.mem_of_find?_eq_some inside, by simpa using List.find?_some inside⟩⟩
  rcases Option.or_eq_some_iff.mp found with hinted | ⟨-, anywhere⟩
  · split at hinted
    · refine listed _ (fun contract kept => ?_) hinted
      exact contracts_filesFrom_subset (List.mem_filter.mp kept).1
    · cases hinted
  · exact listed _ contracts_filesFrom_subset anywhere

/-- The state variables of a name start with the first one that is declared. -/
theorem head?_variablesNamed_iff
    : (workspace.variablesNamed name).head? = some stored
      ↔ FirstWith (fun other : StateVariable => other.name = name)
          (workspace.contracts.flatMap (·.stateVariables)) stored := by
  rw [variablesNamed, ← List.filter_flatMap, List.head?_filter]
  exact find?_eq_some_iff_firstWith fun _ => decide_eq_true_iff

/-- The file of the state variable that a name stands for is listed first just where the first state
variable of the name is declared there.
-/
theorem head?_paths_iff (found : workspace.resolveVariable name hint none = some stored)
    : ((workspace.variablesNamed name).map (·.path)).head? = some stored.path
      ↔ ∀ first,
          FirstWith (fun other : StateVariable => other.name = name)
            (workspace.contracts.flatMap (·.stateVariables)) first
          → first.path = stored.path := by
  simp only [← head?_variablesNamed_iff, List.head?_map]
  have listed := mem_variablesNamed_of_resolveVariable found
  cases named : workspace.variablesNamed name with
  | nil => simp [named] at listed
  | cons first rest => simp

-----------------------------------------------------------------------------------------
-- Lookups
-----------------------------------------------------------------------------------------

/-- The files of a lookup are listed once. -/
theorem nodup_files_lookup (workspace : Workspace) (request : LookupRequest)
    : (workspace.lookup request).files.Nodup := by
  rw [lookup]
  split
  · rw [functionFinding]
    split
    · exact List.nodup_nil
    · exact nodup_distinct _
  · rw [variableFinding]
    split
    · exact List.nodup_nil
    · exact nodup_distinct _
  all_goals
    rw [typeFinding]
    split
    · exact List.nodup_nil
    · exact nodup_distinct _

/-- The files of a lookup start with the one that is shown, but for a state variable that is found
with a hint while the first one of the name is declared in another file.
-/
theorem lookup_shows (success : (workspace.lookup request).success = true)
    : ∃ shown paths,
        (workspace.lookup request).ShowsOne shown paths
        ∧ shown.path ∈ paths
        ∧ (paths.head? = some shown.path
          ↔ (request.kind = .stateVariable
            → ∀ first,
                FirstWith (fun stored : StateVariable => stored.name = request.name)
                  (workspace.contracts.flatMap (·.stateVariables)) first
                → first.path = shown.path))
        ∧ (request.contract.filter (· ≠ "") = none → paths.head? = some shown.path) := by
  obtain ⟨kind, name, hint⟩ := request
  cases kind with
  | struct | enum | type =>
      obtain ⟨shown, rest, shows⟩ := typeFinding_shows success
      exact ⟨shown, _, shows, by simp, by simp, fun _ => rfl⟩
  | function =>
      obtain ⟨shown, rest, shows⟩ := functionFinding_shows success
      exact ⟨shown, _, shows, by simp, by simp, fun _ => rfl⟩
  | stateVariable =>
      obtain ⟨stored, found, shows⟩ := variableFinding_shows success
      refine ⟨.stateVariable stored, _, shows, ?_, ?_, ?_⟩
      · exact List.mem_map.mpr ⟨stored, mem_variablesNamed_of_resolveVariable found, rfl⟩
      · simpa [Definition.path] using head?_paths_iff found
      · intro unhinted
        have first : workspace.resolveVariable name none none = some stored := by
          rw [← found]
          simp only [resolveVariable, unhinted, Option.filter_none]
        rw [List.head?_map, ← resolveVariable_none, first]
        rfl

/-- The files of a lookup are listed without repetition. A lookup that succeeds shows one
definition, in its result and in its report, and the file of the definition is listed. It is listed
first, and the other files behind it, for types and functions and for all lookups without a hint.
For a state variable it is listed first just where the first state variable of the name is declared
in it too.
-/
theorem lookup_files_start_with_shown_iff (workspace : Workspace) (request : LookupRequest)
    : let finding := workspace.lookup request
      finding.files.Nodup
      ∧ (finding.success = true
        → ∃ shown,
            finding.definitions = [shown]
            ∧ (∃ title location source,
                Report.lookupText finding
                  = Report.definitionText finding title shown.path location source)
            ∧ shown.path ∈ finding.files
            ∧ (finding.files.head? = some shown.path
              ↔ finding.files.drop 1 = finding.files.filter (· ≠ shown.path))
            ∧ (request.contract.filter (· ≠ "") = none → finding.files.head? = some shown.path)
            ∧ (finding.files.head? = some shown.path
              ↔ (request.kind = .stateVariable
                → ∀ first,
                    FirstWith (fun stored : StateVariable => stored.name = request.name)
                      (workspace.contracts.flatMap (·.stateVariables)) first
                    → first.path = shown.path))) := by
  intro finding
  have once : finding.files.Nodup := nodup_files_lookup workspace request
  refine ⟨once, fun success => ?_⟩
  obtain ⟨shown, paths, shows, member, first, unhinted⟩ := lookup_shows success
  have listed : shown.path ∈ finding.files := by
    rw [shows.files, mem_distinct]
    exact member
  have head : finding.files.head? = paths.head? := by rw [shows.files, head?_distinct]
  refine ⟨shown, shows.definitions, shows.report, listed,
    head?_eq_some_iff_drop_eq_filter once listed, ?_, ?_⟩
  · rwa [head]
  · rwa [head]

/-- A file with one contract that declares the state variable `owner`. -/
def ownerOutline (path contract : String) : FileOutline :=
  { FileOutline.empty path with
    contracts :=
      [{ sampleContract contract path [] [] with
         stateVariables :=
           [{ name := "owner"
              typeName := "address"
              visibility := "public"
              source := "address public owner;"
              location := ⟨⟨2, 2⟩, ⟨2, 23⟩⟩
              path := path
              contract := contract }] }] }

/-- The workspace of two such files. -/
def ownersWorkspace : Workspace :=
  .ofFiles [ownerOutline "a.sol" "A", ownerOutline "b.sol" "B"] []

/-- Without a hint the first of the two variables is shown, and the other file is the one that is
listed behind.
-/
theorem lookup_files_start_with_shown_iff_owners
    : let finding :=
        ownersWorkspace.lookup { kind := .stateVariable, name := "owner", contract := none }
      finding.success = true
      ∧ finding.files.Nodup
      ∧ finding.files.head? = some "a.sol"
      ∧ finding.files.drop 1 = ["b.sol"] := by
  intro finding
  have success : finding.success = true := rfl
  obtain ⟨once, shows⟩ := lookup_files_start_with_shown_iff ownersWorkspace
    { kind := .stateVariable, name := "owner", contract := none }
  obtain ⟨shown, definitions, -, -, -, unhinted, -⟩ := shows success
  obtain rfl : shown = _ := (List.singleton_inj.mp definitions).symm
  exact ⟨success, once, unhinted rfl, rfl⟩

/-- With a hint at the other contract the files do not start with the one that is shown, and the
files behind the first one are not the other ones.
-/
theorem lookup_files_not_start_with_shown
    : ∃ (workspace : Workspace) (request : LookupRequest) (shown : Definition),
        let finding := workspace.lookup request
        finding.success = true
        ∧ finding.definitions = [shown]
        ∧ finding.files.head? ≠ some shown.path
        ∧ finding.files.drop 1 ≠ finding.files.filter (· ≠ shown.path) := by
  refine ⟨ownersWorkspace, { kind := .stateVariable, name := "owner", contract := some "B" },
    _, rfl, rfl, ?_, ?_⟩
  all_goals decide

end Workspace

end SolidityAtlas
