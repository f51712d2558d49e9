import SolidityAtlas.CommandLine.Report
import SolidityAtlas.Proofs.Outline.Readable

/-! How outlines fail. The root of a syntax tree is the only thing that is checked for the user:
where it is no source unit, the failure names the file. Everything below is taken as it comes, so a
source unit that is not readable ends in a fault of the data that no message is made of. A folder
with such a tree is not loaded, and every command on it breaks off.
-/

namespace SolidityAtlas

open Outcome Checked

/-- A failure is a fault of the data below the root of a syntax tree. -/
def Failure.IsDataFault : Failure → Prop
  | .invalid _ _ | .noProperties | .unusable | .noSuchLine => True
  | .parse _ _ | .notIndexed _ | .notInFunction _ _ _ | .config _ | .noSetting _ | .badNumber
  | .badMarkup => False

instance (failure : Failure) : Decidable failure.IsDataFault :=
  match failure with
  | .invalid _ _ | .noProperties | .unusable | .noSuchLine => isTrue trivial
  | .parse _ _ | .notIndexed _ | .notInFunction _ _ _ | .config _ | .noSetting _ | .badNumber
  | .badMarkup => isFalse id

/-- Users are not told about faults of the data. -/
theorem Failure.IsDataFault.message? {failure : Failure} (fault : failure.IsDataFault)
    : failure.message? = none := by
  cases failure with
  | invalid | noProperties | unusable | noSuchLine => rfl
  | parse | notIndexed | notInFunction | config | noSetting | badNumber | badMarkup => cases fault

variable {source path name text : String} {node value contract tree : Json}

-----------------------------------------------------------------------------------------
-- Faults of nodes
-----------------------------------------------------------------------------------------

/-- A record that is refused is a fault of the data. -/
theorem outcome_fails {α : Type} {record : RecordKind} {checked : Checked α}
    : FailsWith Failure.IsDataFault (checked.outcome record) := by
  cases checked with
  | valid value => exact failsWith_ok value
  | faulty faults => exact failsWith_error trivial

/-- A value that is no list is a fault of the data. -/
theorem listed_fails : FailsWith Failure.IsDataFault (listed value) := by
  unfold listed
  split
  · exact failsWith_ok _
  · split
    · exact failsWith_ok _
    · exact failsWith_ok _
    · exact failsWith_ok _
    · exact failsWith_error trivial

/-- A property of something without properties is a fault of the data. -/
theorem property_fails : FailsWith Failure.IsDataFault (property value name) := by
  unfold property
  split
  · exact failsWith_ok _
  · exact failsWith_error trivial

/-- Like `property_fails`, with a replacement for what counts as nothing. -/
theorem propertyOr_fails : FailsWith Failure.IsDataFault (propertyOr value name text) :=
  failsWith_bind property_fails fun _ => failsWith_ok _

/-- Like `property_fails`, with a replacement for what is missing. -/
theorem propertyIfPresent_fails : FailsWith Failure.IsDataFault (propertyIfPresent value name) := by
  unfold propertyIfPresent
  split
  · exact failsWith_ok _
  · exact failsWith_error trivial

/-- The span of a node only fails for faults of the data. -/
theorem locationOf_fails : FailsWith Failure.IsDataFault (locationOf node) := by
  unfold locationOf
  split
  · exact failsWith_ok _
  · refine failsWith_bind outcome_fails fun first => ?_
    split
    · exact failsWith_ok _
    · exact failsWith_bind outcome_fails fun last => failsWith_ok _

/-- The span of a declaration only fails for faults of the data. -/
theorem declaredAt_fails : FailsWith Failure.IsDataFault (declaredAt node) :=
  failsWith_bind locationOf_fails fun _ => failsWith_ok _

/-- A bound that is none is a fault of the data. -/
theorem bound?_fails : FailsWith Failure.IsDataFault (bound? value) := by
  unfold bound?
  split
  · exact failsWith_ok _
  · exact failsWith_ok _
  · exact failsWith_error trivial

/-- Like `bound?_fails`, for a bound that may be left open. -/
theorem firstBound?_fails : FailsWith Failure.IsDataFault (firstBound? value) := by
  unfold firstBound?
  split
  · exact failsWith_ok _
  · exact bound?_fails

/-- A missing line is a fault of the data. -/
theorem lineAt_fails {lines : List (List Char)} {index : Int}
    : FailsWith Failure.IsDataFault (lineAt lines index) := by
  unfold lineAt
  split
  · exact failsWith_ok _
  · exact failsWith_error trivial

/-- The text of a span only fails for faults of the data. -/
theorem spanText_fails {lines : List (List Char)} {span : Location}
    : FailsWith Failure.IsDataFault (spanText lines span) := by
  unfold spanText
  dsimp only
  split
  · exact failsWith_ok _
  · split
    · exact failsWith_bind lineAt_fails fun _ => failsWith_ok _
    · exact failsWith_bind lineAt_fails fun _ => failsWith_bind lineAt_fails fun _ => failsWith_ok _

/-- The text of a node only fails for faults of the data. -/
theorem excerpt_fails : FailsWith Failure.IsDataFault (excerpt source node) := by
  unfold excerpt
  split
  · exact failsWith_map (failsWith_bind bound?_fails fun _ =>
      failsWith_bind firstBound?_fails fun _ => failsWith_ok _)
  · refine failsWith_bind locationOf_fails fun span => ?_
    split
    · exact failsWith_ok _
    · exact failsWith_bind spanText_fails fun _ => failsWith_ok _

-----------------------------------------------------------------------------------------
-- Faults of declarations
-----------------------------------------------------------------------------------------

/-- A parameter only fails for faults of the data. -/
theorem extractParameter_fails : FailsWith Failure.IsDataFault (extractParameter node) :=
  failsWith_bind propertyOr_fails fun _ => failsWith_bind property_fails fun _ =>
    failsWith_bind property_fails fun _ => outcome_fails

/-- A list that is worked through only fails for faults of the data. -/
theorem listed_mapM_fails {α β : Type} {step : Json → Outcome α} {next : List α → Outcome β}
    (each : ∀ item, FailsWith Failure.IsDataFault (step item))
    (rest : ∀ results, FailsWith Failure.IsDataFault (next results))
    : FailsWith Failure.IsDataFault (listed value >>= fun items => items.mapM step >>= next) :=
  failsWith_bind listed_fails fun items => failsWith_bind (failsWith_mapM each items) rest

/-- Parameters only fail for faults of the data. -/
theorem extractParameters_fails : FailsWith Failure.IsDataFault (extractParameters node name) :=
  failsWith_bind listed_fails fun items => failsWith_mapM (fun _ => extractParameter_fails) items

/-- A function only fails for faults of the data. -/
theorem extractFunction_fails
    : FailsWith Failure.IsDataFault (extractFunction source path contract node) := by
  refine failsWith_bind extractParameters_fails fun parameters => ?_
  refine failsWith_bind extractParameters_fails fun returns => ?_
  refine listed_mapM_fails (fun _ => propertyIfPresent_fails) fun modifiers => ?_
  split
  all_goals
    refine failsWith_bind ?_ fun body => failsWith_bind excerpt_fails fun text =>
      failsWith_bind declaredAt_fails fun location => outcome_fails
  · exact excerpt_fails
  · exact failsWith_ok ""

/-- A struct only fails for faults of the data. -/
theorem extractStruct_fails
    : FailsWith Failure.IsDataFault (extractStruct source path contract node) := by
  have member (node : Json) : FailsWith Failure.IsDataFault (extractMember node) :=
    failsWith_bind propertyOr_fails fun _ => failsWith_bind property_fails fun _ => outcome_fails
  exact listed_mapM_fails member fun _ => failsWith_bind excerpt_fails fun _ =>
    failsWith_bind declaredAt_fails fun _ => outcome_fails

/-- An enum only fails for faults of the data. -/
theorem extractEnum_fails
    : FailsWith Failure.IsDataFault (extractEnum source path contract node) :=
  listed_mapM_fails (fun _ => propertyOr_fails) fun _ => failsWith_bind excerpt_fails fun _ =>
    failsWith_bind declaredAt_fails fun _ => outcome_fails

/-- A declaration of state variables only fails for faults of the data. -/
theorem extractStateVariables_fails
    : FailsWith Failure.IsDataFault (extractStateVariables source path contract node) := by
  refine failsWith_bind excerpt_fails fun text => failsWith_bind declaredAt_fails fun location => ?_
  refine failsWith_bind listed_fails fun items => failsWith_mapM (fun item => ?_) items
  exact failsWith_bind propertyOr_fails fun _ => failsWith_bind property_fails fun _ =>
    failsWith_bind propertyOr_fails fun _ => outcome_fails

/-- An import only fails for faults of the data. -/
theorem extractImport_fails : FailsWith Failure.IsDataFault (extractImport path node) := by
  unfold extractImport
  split
  · exact failsWith_bind listed_fails fun _ => outcome_fails
  · exact failsWith_error trivial

/-- The name of a base contract only fails for faults of the data. -/
theorem extractBase_fails : FailsWith Failure.IsDataFault (extractBase node) := by
  refine failsWith_bind property_fails fun baseName => ?_
  split
  · exact failsWith_ok _
  · exact failsWith_bind property_fails fun _ => failsWith_ok _

/-- A part of a contract only fails for faults of the data. -/
theorem addContractPart_fails {parts : ContractParts}
    : FailsWith Failure.IsDataFault (addContractPart source path contract parts node) := by
  unfold addContractPart
  split
  · exact failsWith_bind extractFunction_fails fun _ => failsWith_ok _
  · exact failsWith_bind extractStruct_fails fun _ => failsWith_ok _
  · exact failsWith_bind extractEnum_fails fun _ => failsWith_ok _
  · exact failsWith_bind extractStateVariables_fails fun _ => failsWith_ok _
  · exact failsWith_ok _

/-- A contract only fails for faults of the data. -/
theorem extractContract_fails
    : FailsWith Failure.IsDataFault (extractContract source path node) := by
  refine failsWith_bind listed_fails fun items => ?_
  refine failsWith_bind (failsWith_foldlM (fun _ _ => addContractPart_fails) items _)
    fun parts => ?_
  exact listed_mapM_fails (fun _ => extractBase_fails) fun _ =>
    failsWith_bind declaredAt_fails fun _ => outcome_fails

/-- A source unit only fails for faults of the data. -/
theorem extractOutline_fails
    : FailsWith Failure.IsDataFault (extractOutline tree source path) := by
  refine failsWith_bind listed_fails fun items => failsWith_foldlM (fun file node => ?_) items _
  unfold addTopLevel
  split
  · exact failsWith_bind extractContract_fails fun _ => failsWith_ok _
  · exact failsWith_bind extractImport_fails fun _ => failsWith_ok _
  · exact failsWith_ok _
  · exact failsWith_bind extractStruct_fails fun _ => failsWith_ok _
  · exact failsWith_bind extractEnum_fails fun _ => failsWith_ok _
  · exact failsWith_bind extractFunction_fails fun _ => failsWith_ok _
  · exact failsWith_ok _

-----------------------------------------------------------------------------------------
-- Trees
-----------------------------------------------------------------------------------------

/-- A computation breaks off in a fault of the data. -/
def BreaksOff {α : Type} (outcome : Outcome α) : Prop :=
  ∃ failure, outcome = .error failure ∧ failure.IsDataFault

/-- A result does not break off. -/
theorem not_breaksOff_ok {α : Type} (value : α) : ¬ BreaksOff (.ok value) := by
  rintro ⟨failure, same, -⟩
  cases same

/-- A failure breaks off exactly when it is a fault of the data. -/
theorem breaksOff_error_iff {α : Type} {failure : Failure}
    : BreaksOff (.error failure : Outcome α) ↔ failure.IsDataFault :=
  ⟨fun ⟨_, same, fault⟩ => Except.error.inj same ▸ fault, fun fault => ⟨failure, rfl, fault⟩⟩

instance {α : Type} (outcome : Outcome α) : Decidable (BreaksOff outcome) :=
  match outcome with
  | .error _ => decidable_of_iff _ breaksOff_error_iff.symm
  | .ok value => isFalse (not_breaksOff_ok value)

/-- A step and what follows it break off when the step does or the rest does with its result. -/
theorem breaksOff_bind_iff {α β : Type} {first : Outcome α} {next : α → Outcome β}
    : BreaksOff (first >>= next)
      ↔ BreaksOff first ∨ ∃ value, first = .ok value ∧ BreaksOff (next value) := by
  cases first with
  | error failure => simp [BreaksOff, bind, Except.bind]
  | ok value => simp [BreaksOff, bind, Except.bind]

/-- A failure that is replaced by one that users are told about does not break off. -/
theorem not_breaksOff_mapError {α ε : Type} {result : Except ε α} {replacement : ε → Failure}
    (told : ∀ error, ¬ (replacement error).IsDataFault)
    : ¬ BreaksOff (result.mapError replacement) := by
  cases result with
  | error error => exact mt breaksOff_error_iff.mp (told error)
  | ok value => exact not_breaksOff_ok value

/-- The kind of the root of a syntax tree. -/
def unitKind : String :=
  "SourceUnit"

/-- A tree with another root is refused for its file. -/
theorem outlineOf_of_kind (source path : String) (other : kindOf tree ≠ some unitKind)
    : ∃ message, outlineOf tree source path = .error (.parse path message) := by
  unfold outlineOf
  split
  · rename_i unit
    exact absurd unit other
  · exact ⟨_, rfl⟩

/-- The outline of a source unit is made of its top-level nodes. -/
theorem outlineOf_of_unit (unit : kindOf tree = some unitKind)
    : outlineOf tree source path = extractOutline tree source path := by
  rw [outlineOf, unit]
  rfl

/-- A tree is given an outline exactly when it is a readable source unit. -/
theorem succeeds_outlineOf_iff
    : Succeeds (outlineOf tree source path)
      ↔ kindOf tree = some unitKind ∧ IsReadable source tree := by
  by_cases unit : kindOf tree = some unitKind
  · rw [outlineOf_of_unit unit, succeeds_extractOutline_iff]
    exact (and_iff_right unit).symm
  · obtain ⟨message, refused⟩ := outlineOf_of_kind source path unit
    rw [refused]
    exact iff_of_false (not_succeeds_error _) fun both => unit both.1

/-- The outline of a tree breaks off exactly when the tree is a source unit that is not readable. -/
theorem breaksOff_outlineOf_iff
    : BreaksOff (outlineOf tree source path)
      ↔ kindOf tree = some unitKind ∧ ¬ IsReadable source tree := by
  by_cases unit : kindOf tree = some unitKind
  · rw [outlineOf_of_unit unit, ← succeeds_extractOutline_iff]
    cases done : extractOutline tree source path with
    | error failure =>
        have fault : failure.IsDataFault := extractOutline_fails failure done
        exact iff_of_true ⟨failure, rfl, fault⟩ ⟨unit, not_succeeds_error failure⟩
    | ok file =>
        exact iff_of_false (not_breaksOff_ok file) fun both => both.2 (succeeds_ok file)
  · obtain ⟨message, refused⟩ := outlineOf_of_kind source path unit
    rw [refused, breaksOff_error_iff]
    exact iff_of_false id fun both => unit both.1

-----------------------------------------------------------------------------------------
-- Folders
-----------------------------------------------------------------------------------------

namespace Folder

variable {folder : Folder} {names : List String} {bytes : List UInt8}

/-- A source file of a folder has a tree that is a source unit but not readable with the text of the
file.
-/
def HoldsUnreadable (folder : Folder) (names : List String) (bytes : List UInt8) : Prop :=
  ∃ entry text treeText tree,
    folder.entry? (treeWay names) = some entry
    ∧ readText (folder.pathOf names) (.file bytes) = .ok text
    ∧ readText (folder.pathOf (treeWay names)) entry = .ok treeText
    ∧ Json.read treeText = .ok tree
    ∧ kindOf tree = some unitKind
    ∧ ¬ IsReadable text tree

/-- A file breaks off exactly when it has a tree that is not readable. -/
theorem breaksOff_parse_iff
    : BreaksOff (folder.parse names bytes) ↔ folder.HoldsUnreadable names bytes := by
  have reading (error : String) : ¬ (Failure.parse (folder.pathOf names).text error).IsDataFault :=
    id
  have readingTree (text : String) (error : Json.ReadError)
      : ¬ (treeFailure (folder.pathOf names).text text error).IsDataFault := by
    rw [treeFailure]
    split
    · exact id
    · exact id
  rw [parse, HoldsUnreadable]
  cases folder.entry? (treeWay names) with
  | none => simp [breaksOff_error_iff, Failure.IsDataFault]
  | some entry =>
      simp only [breaksOff_bind_iff, not_breaksOff_mapError reading,
        not_breaksOff_mapError (readingTree _), mapError_eq_ok_iff, breaksOff_outlineOf_iff,
        false_or, Option.some.injEq]
      constructor
      · rintro ⟨text, read, treeText, treeRead, tree, parsed, unreadable | ⟨file, -, impossible⟩⟩
        · exact ⟨entry, text, treeText, tree, rfl, read, treeRead, parsed, unreadable⟩
        · exact absurd impossible (not_breaksOff_ok _)
      · rintro ⟨_, text, treeText, tree, rfl, read, treeRead, parsed, unreadable⟩
        exact ⟨text, read, treeText, treeRead, tree, parsed, .inl unreadable⟩

/-- A folder breaks off exactly when the first of its files that fails has a tree that is not
readable.
-/
theorem breaksOff_workspace_iff
    : BreaksOff folder.workspace
      ↔ ∃ before file after,
          folder.sources = before ++ file :: after
          ∧ (∀ earlier ∈ before, Succeeds (folder.parse earlier.1 earlier.2))
          ∧ folder.HoldsUnreadable file.1 file.2 := by
  have loaded
      : BreaksOff folder.workspace
        ↔ BreaksOff (folder.sources.mapM fun file => folder.parse file.1 file.2) := by
    rw [workspace, breaksOff_bind_iff, or_iff_left]
    rintro ⟨parsed, -, impossible⟩
    exact not_breaksOff_ok _ impossible
  rw [loaded, BreaksOff]
  simp only [mapM_eq_error_iff, ← breaksOff_parse_iff]
  constructor
  · rintro ⟨failure, ⟨before, file, after, split, succeeded, failed⟩, fault⟩
    exact ⟨before, file, after, split, succeeded, failure, failed, fault⟩
  · rintro ⟨before, file, after, split, succeeded, failure, failed, fault⟩
    exact ⟨failure, ⟨before, file, after, split, succeeded, failed⟩, fault⟩

/-- Why a folder is not loaded: for a file, for a number that is not read, or for a fault of the
data.
-/
def LoadingFailure (failure : Failure) : Prop :=
  (∃ path message, failure = .parse path message) ∨ failure = .badNumber ∨ failure.IsDataFault

/-- A file of a folder only fails for these causes. -/
theorem parse_fails : FailsWith LoadingFailure (folder.parse names bytes) := by
  have reading (path error : String) : LoadingFailure (.parse path error) :=
    .inl ⟨path, error, rfl⟩
  have readingTree (path text : String) (error : Json.ReadError)
      : LoadingFailure (treeFailure path text error) := by
    rw [treeFailure]
    split
    · exact .inr (.inl rfl)
    · exact reading _ _
  have outlined (tree : Json) (text path : String)
      : FailsWith LoadingFailure (outlineOf tree text path) := by
    by_cases unit : kindOf tree = some unitKind
    · rw [outlineOf_of_unit unit]
      exact fun failure failed => .inr (.inr (extractOutline_fails failure failed))
    · obtain ⟨message, refused⟩ := outlineOf_of_kind text path unit
      rw [refused]
      exact failsWith_error (reading _ _)
  rw [parse]
  split
  · exact failsWith_error (reading _ _)
  · exact failsWith_bind (failsWith_mapError (reading _)) fun text =>
      failsWith_bind (failsWith_mapError (reading _)) fun treeText =>
        failsWith_bind (failsWith_mapError (readingTree _ _)) fun tree =>
          failsWith_bind (outlined _ _ _) fun _ => failsWith_ok _

/-- A folder is only not loaded for these causes. -/
theorem workspace_fails : FailsWith LoadingFailure folder.workspace :=
  failsWith_bind (failsWith_mapM (fun (_, _) => parse_fails) _) fun _ => failsWith_ok _

end Folder

-----------------------------------------------------------------------------------------
-- Reports on trees
-----------------------------------------------------------------------------------------

/-- Every command on a folder that breaks off breaks off. -/
theorem Invocation.report_of_breaksOff {folder : Folder} (broken : BreaksOff folder.workspace)
    (invocation : Invocation) (tables : SettingTables) (here : Path)
    : ∃ failure,
        invocation.report tables here folder = .breakdown failure ∧ failure.IsDataFault := by
  obtain ⟨failure, failed, fault⟩ := broken
  refine ⟨failure, ?_, fault⟩
  rw [report, failed]
  change Report.ofFailure failure = .breakdown failure
  rw [Report.ofFailure, fault.message?]

/-- A tree is given an outline or refused for its file exactly when it is a readable source unit or
no source unit; a source unit that is not readable breaks off. So a folder is loaded, or refused for
a file or a number that is not read, unless the first of its files that fails has a tree that is not
readable; then it breaks off, and so does every command on it.
-/
theorem outlineOf_reported_iff (tree : Json) (source path : String) (folder : Folder)
    : (((∃ file, outlineOf tree source path = .ok file)
          ∨ ∃ message, outlineOf tree source path = .error (.parse path message))
        ↔ (kindOf tree = some unitKind → IsReadable source tree))
      ∧ (BreaksOff (outlineOf tree source path)
        ↔ kindOf tree = some unitKind ∧ ¬ IsReadable source tree)
      ∧ FailsWith Folder.LoadingFailure folder.workspace
      ∧ (BreaksOff folder.workspace
        ↔ ∃ before file after,
            folder.sources = before ++ file :: after
            ∧ (∀ earlier ∈ before, Succeeds (folder.parse earlier.1 earlier.2))
            ∧ folder.HoldsUnreadable file.1 file.2)
      ∧ (BreaksOff folder.workspace
        → ∀ (invocation : Invocation) tables here,
            ∃ failure,
              invocation.report tables here folder = .breakdown failure
              ∧ failure.IsDataFault) := by
  refine ⟨?_, breaksOff_outlineOf_iff, Folder.workspace_fails, Folder.breaksOff_workspace_iff,
    Invocation.report_of_breaksOff⟩
  by_cases unit : kindOf tree = some unitKind
  · constructor
    · rintro (made | ⟨message, refused⟩) _
      · exact (succeeds_outlineOf_iff.mp made).2
      · rw [outlineOf_of_unit unit] at refused
        exact absurd (extractOutline_fails _ refused) id
    · intro readable
      exact .inl (succeeds_outlineOf_iff.mpr ⟨unit, readable unit⟩)
  · obtain ⟨message, refused⟩ := outlineOf_of_kind source path unit
    exact iff_of_true (.inr ⟨message, refused⟩) fun same => absurd same unit

/-- The text of an enum. -/
def enumText : String :=
  "enum E \x7b A \x7d\n"

/-- A tree of the enum with null for its member. -/
def nullMemberTree : Json :=
  .obj
    [("type", .str unitKind),
     ("children",
      .arr
        [.obj [("type", .str "EnumDefinition"), ("name", .str "E"), ("members", .arr [.null])]])]

/-- The tree as a text. -/
def nullMemberText : String :=
  "\x7b\"type\":\"SourceUnit\",\"children\":[\x7b\"type\":\"EnumDefinition\",\"name\":\"E\"," ++
    "\"members\":[null]\x7d]\x7d"

/-- A folder with the enum and the tree. -/
def nullMemberFolder : Folder :=
  let fileOf (text : String) : FolderEntry := .file (text.toList.map fun c => UInt8.ofNat c.toNat)
  { path := .ofText "src"
    entries := [(["c.sol"], fileOf enumText), (["c.sol.ast.json"], fileOf nullMemberText)] }

/-- The folder breaks off. -/
theorem breaksOff_nullMemberFolder : BreaksOff nullMemberFolder.workspace := by
  decide +kernel

/-- The tree is not readable, the folder breaks off, and so does a command on it. -/
theorem outlineOf_reported_iff_nullMember
    : ¬ IsReadable enumText nullMemberTree
      ∧ BreaksOff nullMemberFolder.workspace
      ∧ ∃ failure,
          Invocation.report { command := .stats, workspace := "src", asJson := false }
              SettingTables.default (.ofText "") nullMemberFolder
            = .breakdown failure
          ∧ failure.IsDataFault := by
  obtain ⟨-, breaks, -, -, reports⟩ :=
    outlineOf_reported_iff nullMemberTree enumText "c.sol" nullMemberFolder
  have broken : BreaksOff (outlineOf nullMemberTree enumText "c.sol") := by decide
  exact ⟨(breaks.mp broken).2, breaksOff_nullMemberFolder,
    reports breaksOff_nullMemberFolder _ _ _⟩

/-- The tree gets no outline and is not refused for its file, and the folder is not loaded for a
cause that users are not told about.
-/
theorem outlineOf_not_reported
    : (∀ file, outlineOf nullMemberTree enumText "c.sol" ≠ .ok file)
      ∧ (∀ message, outlineOf nullMemberTree enumText "c.sol" ≠ .error (.parse "c.sol" message))
      ∧ ∃ failure, nullMemberFolder.workspace = .error failure ∧ failure.message? = none := by
  have failed : outlineOf nullMemberTree enumText "c.sol" = .error .noProperties := rfl
  obtain ⟨failure, folderFailed, fault⟩ := breaksOff_nullMemberFolder
  rw [failed]
  exact ⟨fun _ => nofun, fun _ => nofun, failure, folderFailed, fault.message?⟩

end SolidityAtlas
