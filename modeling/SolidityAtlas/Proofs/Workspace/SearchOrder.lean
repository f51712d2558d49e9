import SolidityAtlas.Proofs.Workspace.FileOrder

/-! The order in which a workspace is searched, after any run of changes. The paths stand in the
order in which they came in, a file that is replaced keeps its place, and one that is taken away and
comes again stands last. A search starts at the current file and goes on through the others in this
order; so it decides which definition is found, and not whether one is found. The one exception is
the empty path: as the current one its file is left out.
-/

namespace SolidityAtlas

variable {files searched : List FileOutline} {file : FileOutline} {current : Option String}
  {workspace : Workspace} {change : FileChange} {α : Type} {find : FileOutline → Option α}

-----------------------------------------------------------------------------------------
-- Paths after changes
-----------------------------------------------------------------------------------------

/-- The paths after a change: a new path comes last, a known one keeps its place. -/
def FileChange.pathsAfter (change : FileChange) (paths : List String) : List String :=
  match change with
  | .insert file _ => if file.path ∈ paths then paths else paths ++ [file.path]
  | .erase path => paths.filter (· ≠ path)

namespace Workspace

theorem paths_changed : (workspace.changed change).paths = change.pathsAfter workspace.paths := by
  cases change with
  | insert file tree => exact KeyedList.keys_put workspace.files file
  | erase path => exact KeyedList.keys_erase workspace.files path

/-- A run of changes changes the paths one after another, by induction on the run. -/
theorem paths_foldl_changed (changes : List FileChange) (workspace : Workspace)
    : (changes.foldl changed workspace).paths
      = changes.foldl (fun paths change => change.pathsAfter paths) workspace.paths := by
  induction changes generalizing workspace with
  | nil => rfl
  | cons change rest ih => rw [List.foldl_cons, List.foldl_cons, ih, paths_changed]

/-- A workspace of files has each path where it was first given. -/
theorem paths_ofFiles (files : List FileOutline) (trees : List (String × Json))
    : (ofFiles files trees).paths = distinct (files.map (·.path)) :=
  KeyedList.keys_ofList files

end Workspace

-----------------------------------------------------------------------------------------
-- Current file first
-----------------------------------------------------------------------------------------

/-- Files are searched from a current path: every file once, the one at the path first, and the
others in order.
-/
structure SearchOrder (files : List FileOutline) (current : Option String)
    (searched : List FileOutline)
    : Prop where
  all : searched.Perm files
  first : ∀ file ∈ files, current = some file.path → searched.head? = some file
  others
    : searched.filter (fun file => some file.path ≠ current)
      = files.filter fun file => some file.path ≠ current

/-- A search goes as far as a search in order. -/
theorem SearchOrder.isSome_findSome?_iff (order : SearchOrder files current searched)
    : (searched.findSome? find).isSome ↔ (files.findSome? find).isSome := by
  simp only [List.isSome_findSome?, List.any_eq_true, order.all.mem_iff]

/-- A search ends at the current file if this answers. -/
theorem SearchOrder.findSome?_current (order : SearchOrder files current searched)
    (listed : file ∈ files) (own : current = some file.path) {found : α}
    (answer : find file = some found)
    : searched.findSome? find = some found := by
  obtain ⟨rest, rfl⟩ := List.head?_eq_some_iff.mp (order.first file listed own)
  rw [List.findSome?_cons, answer]

namespace Workspace

/-- The empty path is the current one and the path of a file. -/
def LosesCurrent (workspace : Workspace) (current : Option String) : Prop :=
  current = some "" ∧ "" ∈ workspace.paths

instance : Decidable (workspace.LosesCurrent current) :=
  inferInstanceAs (Decidable (_ ∧ _))

/-- From the empty path the files are searched that are left without the file of this path. -/
theorem filesFrom_empty_path
    : workspace.filesFrom (some "") = (workspace.erase "").filesFrom none := by
  simp only [filesFrom, if_true, Option.toList_none, List.nil_append, erase, KeyedList.erase]

/-- A search from a path goes through the file of the path, if it is not lost, and the others. -/
theorem filesFrom_some {path : String} (kept : ¬ workspace.LosesCurrent (some path))
    : workspace.filesFrom (some path)
      = workspace.files.items.filter (fun file => file.path = path)
        ++ workspace.files.items.filter fun file => file.path ≠ path := by
  rw [filesFrom, List.append_cancel_right_eq]
  cases known : workspace.file? path with
  | some file =>
      obtain ⟨member, rfl⟩ := KeyedList.get?_eq_some_iff.mp known
      have named : file.path ≠ "" := fun empty =>
        kept ⟨congrArg some empty, empty ▸ List.mem_map.mpr ⟨file, member, rfl⟩⟩
      rw [if_neg named, filter_key_eq workspace.files.nodup member, Option.toList_some]
  | none =>
      have absent := KeyedList.get?_eq_none_iff.mp known
      rw [ite_self, Option.toList_none, eq_comm, List.filter_eq_nil_iff]
      intro file member same
      exact absent (List.mem_map.mpr ⟨file, member, of_decide_eq_true same⟩)

/-- A workspace is searched in order from every path but the empty one of a file. -/
theorem searchOrder_filesFrom (kept : ¬ workspace.LosesCurrent current)
    : SearchOrder workspace.files.items current (workspace.filesFrom current) := by
  cases current with
  | none => exact ⟨.rfl, fun _ _ own => (nomatch own), rfl⟩
  | some path =>
      rw [filesFrom_some kept]
      refine ⟨?_, ?_, ?_⟩
      · simpa using
          List.filter_append_perm (fun file : FileOutline => decide (file.path = path)) _
      · intro file member own
        obtain rfl := Option.some.inj own
        rw [filter_key_eq workspace.files.nodup member]
        rfl
      · simp [List.filter_filter]

/-- The empty path of a file is not searched in order: the file is lost. -/
theorem searchOrder_filesFrom_iff
    : SearchOrder workspace.files.items current (workspace.filesFrom current)
      ↔ ¬ workspace.LosesCurrent current := by
  refine ⟨?_, searchOrder_filesFrom⟩
  rintro order ⟨rfl, known⟩
  obtain ⟨file, member, empty⟩ := List.mem_map.mp known
  have searched := order.all.mem_iff.mpr member
  rw [filesFrom_empty_path] at searched
  exact absurd empty (by simpa using (List.mem_filter.mp searched).2)

end Workspace

end SolidityAtlas
