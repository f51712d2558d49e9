import SolidityAtlas.Proofs.Analysis.Hints
import SolidityAtlas.Proofs.Workspace.SearchOrder

/-! What a name stands for from a current file. Types, functions and state variables are searched in
the order of the files, the current one first. From every path but the empty one they are found
where they are found without a current file, and the current file's own ones come first.
-/

namespace SolidityAtlas

variable {workspace : Workspace} {current : Option String} {name : String} {α : Type}

-----------------------------------------------------------------------------------------
-- Searches
-----------------------------------------------------------------------------------------

/-- A search finds something from a current path where it finds something without one, and if the
file of the path declares something, it is found.
-/
structure CurrentFirst (workspace : Workspace) (current : Option String)
    (declares : FileOutline → α → Prop) (search : Option String → Option α)
    : Prop where
  reach : (search current).isSome ↔ (search none).isSome
  own
    : ∀ file ∈ workspace.files.items,
        current = some file.path
        → (∃ item, declares file item)
        → ∃ item, declares file item ∧ search current = some item

/-- A search in order that asks each file for something it declares has the current file first. -/
theorem SearchOrder.currentFirst {declares : FileOutline → α → Prop}
    {search : Option String → Option α} {find : FileOutline → Option α}
    (order : SearchOrder workspace.files.items current (workspace.filesFrom current))
    (searches : ∀ start, search start = (workspace.filesFrom start).findSome? find)
    (answers
      : ∀ file, (∃ item, declares file item) → ∃ item, declares file item ∧ find file = some item)
    : CurrentFirst workspace current declares search := by
  refine ⟨?_, ?_⟩
  · rw [searches, searches]
    exact order.isSome_findSome?_iff
  · intro file listed own declared
    obtain ⟨item, inside, answer⟩ := answers file declared
    refine ⟨item, inside, ?_⟩
    rw [searches]
    exact order.findSome?_current listed own answer

/-- A search among items of a name finds one if there is one. -/
theorem exists_find?_of_mem {items : List α} {label : α → String}
    (declared : ∃ item, item ∈ items ∧ label item = name)
    : ∃ item, (item ∈ items ∧ label item = name)
        ∧ items.find? (fun other => label other = name) = some item := by
  obtain ⟨item, found⟩ : ∃ item, items.find? (fun other => label other = name) = some item := by
    refine Option.isSome_iff_exists.mp (List.find?_isSome.mpr ?_)
    simpa using declared
  exact ⟨item, ⟨List.mem_of_find?_eq_some found, by simpa using List.find?_some found⟩, found⟩

/-- A reference shows a type of a file that a query asks for. -/
def FileOutline.DeclaresType (file : FileOutline) (query : TypeQuery) (reference : TypeReference)
    : Prop :=
  ∃ definition ∈ file.typesFor query,
    definition.name = query.name ∧ reference.definition = some definition

/-- A file that declares a type answers with one. -/
theorem exists_findType_of_declaresType {file : FileOutline} {query : TypeQuery}
    (declared : ∃ reference, file.DeclaresType query reference)
    : ∃ reference, file.DeclaresType query reference ∧ file.findType query = some reference := by
  obtain ⟨_, definition, inside, named, -⟩ := declared
  obtain ⟨first, ⟨listed, same⟩, found⟩ := exists_find?_of_mem ⟨definition, inside, named⟩
  refine ⟨.toDefinition query.shown first, ⟨first, listed, same, rfl⟩, ?_⟩
  rw [findType_eq, found]
  rfl

namespace Workspace

/-- The files of a workspace after any run of changes have their paths in the order in which they
came in. They are searched in this order, the current file first, from every path but the empty one
of a file. From there types, functions and state variables are found where they are found without a
current file, and what the current file declares is found first. From the empty path the search goes
as in the workspace without the file of this path.
-/
theorem search_from_current_iff (files : List FileOutline) (trees : List (String × Json))
    (changes : List FileChange) (current : Option String)
    : let workspace := changes.foldl changed (ofFiles files trees)
      workspace.paths
        = changes.foldl (fun paths change => change.pathsAfter paths)
            (distinct (files.map (·.path)))
      ∧ (SearchOrder workspace.files.items current (workspace.filesFrom current)
        ↔ ¬ workspace.LosesCurrent current)
      ∧ (¬ workspace.LosesCurrent current
        → ∀ name,
            CurrentFirst workspace current (fun file => file.DeclaresType (.ofName name))
              (fun start => resolveTypeIn (workspace.filesFrom start) name)
            ∧ CurrentFirst workspace current
                (fun file function => function ∈ file.allFunctions ∧ function.name = name)
                (fun start => resolveFunctionIn (workspace.filesFrom start) name)
            ∧ CurrentFirst workspace current
                (fun file stored => stored ∈ file.stateVariables ∧ stored.name = name)
                (fun start => workspace.resolveVariable name none start)
            ∧ ∀ hint,
                (workspace.resolveVariable name hint current).isSome
                ↔ (workspace.resolveVariable name hint none).isSome)
      ∧ (current = some ""
        → workspace.filesFrom current = (workspace.erase "").filesFrom none) := by
  intro workspace
  refine ⟨?_, searchOrder_filesFrom_iff, ?_, ?_⟩
  · rw [paths_foldl_changed, paths_ofFiles]
  · intro kept name
    have order := searchOrder_filesFrom kept
    have fromVariables
        : CurrentFirst workspace current
            (fun file stored => stored ∈ file.stateVariables ∧ stored.name = name)
            (fun start => workspace.resolveVariable name none start) :=
      order.currentFirst (fun _ => resolveVariable_eq_findSome?) fun _ => exists_find?_of_mem
    refine ⟨?_, ?_, fromVariables, fun hint => ?_⟩
    · exact order.currentFirst (fun _ => rfl) fun _ => exists_findType_of_declaresType
    · exact order.currentFirst (fun _ => rfl) fun _ => exists_find?_of_mem
    · exact isSome_resolveVariable_iff.trans
        (fromVariables.reach.trans isSome_resolveVariable_iff.symm)
  · rintro rfl
    exact filesFrom_empty_path

/-- A file comes in, another one is taken away and comes again, and a third one is replaced. -/
def depositsChanges : List FileChange :=
  [.insert (FileOutline.empty "c.sol") none, .erase "a.sol",
   .insert (depositsOutline "b.sol" "Vault") none, .insert (depositsOutline "a.sol" "Bank") none]

/-- The file that came again stands last, and from there its own state variable is found. -/
theorem search_from_current_iff_deposits
    : let bank := depositsOutline "a.sol" "Bank"
      let workspace := depositsChanges.foldl changed (ofFiles [bank, FileOutline.empty "b.sol"] [])
      ¬ workspace.LosesCurrent (some "a.sol")
      ∧ workspace.paths = ["b.sol", "c.sol", "a.sol"]
      ∧ SearchOrder workspace.files.items (some "a.sol") (workspace.filesFrom (some "a.sol"))
      ∧ (∃ stored,
          (stored ∈ bank.stateVariables ∧ stored.name = "total")
          ∧ workspace.resolveVariable "total" none (some "a.sol") = some stored)
      ∧ (workspace.resolveVariable "total" none none).map (·.path) = some "b.sol" := by
  intro bank workspace
  obtain ⟨paths, order, found, -⟩ :=
    search_from_current_iff [bank, FileOutline.empty "b.sol"] [] depositsChanges (some "a.sol")
  have kept : ¬ workspace.LosesCurrent (some "a.sol") := by decide
  obtain ⟨-, -, fromVariables, -⟩ := found kept "total"
  have listed : bank ∈ workspace.files.items := .tail _ (.tail _ (.head _))
  refine ⟨kept, paths.trans (by decide), order.mpr kept, ?_, rfl⟩
  exact fromVariables.own bank listed rfl ⟨_, .head _, rfl⟩

/-- From the empty path the file of this path is not searched, so what only this file declares is
not found, although it is found without a current file.
-/
theorem search_loses_current_file
    : ∃ (files : List FileOutline) (file : FileOutline) (name : String),
        let workspace := ofFiles files []
        file ∈ workspace.files.items
        ∧ name ∈ file.stateVariables.map (·.name)
        ∧ file ∉ workspace.filesFrom (some file.path)
        ∧ (workspace.resolveVariable name none none).isSome = true
        ∧ workspace.resolveVariable name none (some file.path) = none := by
  refine ⟨[depositsOutline "" "Bank", FileOutline.empty "a.sol"], depositsOutline "" "Bank",
    "total", ?_⟩
  decide

end Workspace

end SolidityAtlas
