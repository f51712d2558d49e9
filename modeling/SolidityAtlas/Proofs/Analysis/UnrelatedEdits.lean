import SolidityAtlas.Proofs.Resolution.NameSearch
import SolidityAtlas.Proofs.Workspace.FileChanges

/-! A change to one file changes the analysis of a function in other files only through the names
that the function uses and the changed file defines. Names that the current file defines itself are
never looked for in the changed file.
-/

namespace SolidityAtlas.Workspace

variable {workspace : Workspace} {settings : Settings} {function : FunctionDecl}
  {change : FileChange} {current : FileOutline} {path : String}

/-- Whatever of a sort the changed file defines, before the change or after it, the current file
defines too.
-/
def Covers (workspace : Workspace) (change : FileChange) (current : FileOutline)
    (defines : FileOutline → Prop)
    : Prop :=
  ∀ file, workspace.HasVersion change file → defines file → defines current

/-- A name stands for the same type when the current file covers it. -/
theorem resolveTypeIn_changed {name : String} (named : path ≠ "")
    (indexed : workspace.file? path = some current) (other : change.path ≠ path)
    (covers : workspace.Covers change current (·.DefinesType (.ofName name)))
    : resolveTypeIn ((workspace.changed change).filesFrom (some path)) name
      = resolveTypeIn (workspace.filesFrom (some path)) name := by
  refine findSome?_filesFrom_changed named indexed other ?_
  intro file version found
  rw [isSome_findType_iff] at found ⊢
  exact covers file version found

/-- A name stands for the same function when the current file covers it. -/
theorem resolveFunctionIn_changed {name : String} (named : path ≠ "")
    (indexed : workspace.file? path = some current) (other : change.path ≠ path)
    (covers : workspace.Covers change current (·.DefinesFunction name))
    : resolveFunctionIn ((workspace.changed change).filesFrom (some path)) name
      = resolveFunctionIn (workspace.filesFrom (some path)) name := by
  refine findSome?_filesFrom_changed named indexed other ?_
  intro file version found
  rw [isSome_findFunction_iff] at found ⊢
  exact covers file version found

/-- The types of a function stay when the current file covers all candidates. -/
theorem typesOf_changed (named : path ≠ "") (indexed : workspace.file? path = some current)
    (other : change.path ≠ path)
    (covers
      : ∀ names, candidateTypes settings function = .ok names
        → ∀ name ∈ names, workspace.Covers change current (·.DefinesType (.ofName name)))
    : (workspace.changed change).typesOf settings function (some path)
      = workspace.typesOf settings function (some path) := by
  rw [typesOf, typesOf]
  cases known : candidateTypes settings function with
  | error failure => rfl
  | ok names =>
      refine congrArg Except.ok (List.filterMap_congr ?_)
      intro name member
      exact resolveTypeIn_changed named indexed other (covers names known name member)

/-- The calls of a function stay when the current file covers all names that are called. -/
theorem callsOf_changed (named : path ≠ "") (indexed : workspace.file? path = some current)
    (other : change.path ≠ path)
    (covers
      : ∀ calls, callsIn settings function = .ok calls
        → ∀ call ∈ calls, workspace.Covers change current (·.DefinesFunction call.name))
    : (workspace.changed change).callsOf settings function (some path)
      = workspace.callsOf settings function (some path) := by
  rw [callsOf, callsOf]
  cases known : callsIn settings function with
  | error failure => rfl
  | ok calls =>
      refine congrArg Except.ok (List.filterMap_congr ?_)
      intro call member
      have same := resolveFunctionIn_changed named indexed other (covers calls known call member)
      rw [CallSite.resolveIn, CallSite.resolveIn, same]

/-- The contract of a function in another file stays, and with it its state variables. -/
theorem contractOf_changed (foreign : change.path ≠ function.path)
    : (workspace.changed change).contractOf function = workspace.contractOf function := by
  rw [contractOf, contractOf, file?_changed foreign]

/-- The analysis of a function, seen from a file, stays as it is or fails as before when another
file, which is not that of the function either, is added, replaced or taken away, if the file it is
seen from defines whatever type candidate and called name of the function the old or the new version
of the other file defines.
-/
theorem analysisOf_changed (named : path ≠ "") (indexed : workspace.file? path = some current)
    (other : change.path ≠ path) (foreign : change.path ≠ function.path)
    (coversTypes
      : ∀ names, candidateTypes settings function = .ok names
        → ∀ name ∈ names, workspace.Covers change current (·.DefinesType (.ofName name)))
    (coversCalls
      : ∀ calls, callsIn settings function = .ok calls
        → ∀ call ∈ calls, workspace.Covers change current (·.DefinesFunction call.name))
    : (workspace.changed change).analysisOf settings function (some path)
      = workspace.analysisOf settings function (some path) := by
  have seenFrom : ((some path).filter (· ≠ "")).getD function.path = path := by
    simp [Option.filter, named]
  simp only [analysisOf, seenFrom, variablesOf, contractOf_changed foreign,
    typesOf_changed named indexed other coversTypes,
    callsOf_changed named indexed other coversCalls]

-----------------------------------------------------------------------------------------
-- Example
-----------------------------------------------------------------------------------------

/-- A function at file level. -/
def freeFunction (path name source : String) : FunctionDecl :=
  { name := name
    visibility := "default"
    mutability := none
    parameters := []
    returns := []
    modifiers := []
    body := "\x7b \x7d"
    source := source
    location := ⟨⟨1, 0⟩, ⟨1, 60⟩⟩
    path := path
    contract := none }

/-- A struct at file level. -/
def freeStruct (path name : String) : StructDecl :=
  { name := name
    members := []
    source := "struct " ++ name ++ " \x7b \x7d"
    location := ⟨⟨2, 0⟩, ⟨2, 20⟩⟩
    path := path
    contract := none }

/-- A file without contracts. -/
def freeOutline (path : String) (structs : List StructDecl) (functions : List FunctionDecl)
    : FileOutline :=
  { path := path
    contracts := []
    imports := []
    pragmas := []
    structs := structs
    enums := []
    functions := functions }

/-- A function that uses a struct and two functions. -/
def drawFunction : FunctionDecl :=
  freeFunction "draw.sol" "draw" "function draw() \x7b Point memory p; near(p); far(p); \x7d"

/-- A file that defines the struct and the first of the two functions. -/
def drawOutline : FileOutline :=
  freeOutline "draw.sol" [freeStruct "draw.sol" "Point"]
    [drawFunction, freeFunction "draw.sol" "near" "function near() \x7b \x7d"]

/-- A file that defines the struct. -/
def shapesBefore : FileOutline :=
  freeOutline "shapes.sol" [freeStruct "shapes.sol" "Point"] []

/-- The file when it defines the first function and one that is not called instead. -/
def shapesAfter : FileOutline :=
  freeOutline "shapes.sol" []
    [freeFunction "shapes.sol" "near" "function near() \x7b \x7d",
     freeFunction "shapes.sol" "other" "function other() \x7b \x7d"]

/-- A file that defines the second function. -/
def farOutline : FileOutline :=
  freeOutline "far.sol" [] [freeFunction "far.sol" "far" "function far() \x7b \x7d"]

/-- A file that is searched before the file of a call is rewritten, and the analysis stays. -/
theorem analysisOf_changed_shapes
    : let workspace := Workspace.ofFiles [drawOutline, shapesBefore, farOutline] []
      let change : FileChange := .insert shapesAfter none
      let settings := SettingTables.default.settings
      candidateTypes settings drawFunction = .ok ["Point"]
      ∧ (∃ calls, callsIn settings drawFunction = .ok calls
        ∧ calls.map (·.name) = ["near", "far"])
      ∧ (workspace.changed change).analysisOf settings drawFunction (some "draw.sol")
        = workspace.analysisOf settings drawFunction (some "draw.sol") := by
  intro workspace change settings
  have candidates : candidateTypes settings drawFunction = .ok ["Point"] := rfl
  obtain ⟨calls, called, names⟩
      : ∃ calls, callsIn settings drawFunction = .ok calls
        ∧ calls.map (·.name) = ["near", "far"] :=
    ⟨_, rfl, rfl⟩
  have indexed : workspace.file? "draw.sol" = some drawOutline := rfl
  have versions (file : FileOutline) (version : workspace.HasVersion change file)
      : file = shapesBefore ∨ file = shapesAfter := by
    rcases version with old | new
    · exact .inl (Option.some.inj old).symm
    · exact .inr (Option.some.inj new).symm
  refine ⟨candidates, ⟨calls, called, names⟩, ?_⟩
  refine analysisOf_changed (by decide) indexed (by decide) (by decide) ?_ ?_
  · intro listed known name member file version defined
    obtain rfl := Except.ok.inj (candidates.symm.trans known)
    obtain rfl := List.mem_singleton.mp member
    decide
  · intro listed known call member file version defined
    obtain rfl := Except.ok.inj (called.symm.trans known)
    have name : call.name = "near" ∨ call.name = "far" := by
      have named : call.name ∈ calls.map (·.name) := List.mem_map_of_mem member
      simpa [names] using named
    rcases name with near | far
    · rw [near]
      decide
    · rw [far] at defined
      rcases versions file version with rfl | rfl
      · exact absurd defined (by decide)
      · exact absurd defined (by decide)

end SolidityAtlas.Workspace
