import SolidityAtlas.Workspace.Basic
import SolidityAtlas.Proofs.KeyedList

/-! A change to one file of a workspace as the search for names sees it: all other files stay, in
the same order. So a search that starts at another file can only notice what the changed file
defines, and not even that where the search has ended before.
-/

namespace SolidityAtlas

/-- A change to one file. -/
inductive FileChange where
  /-- A file is added, or replaced where it stands. -/
  | insert (file : FileOutline) (tree : Option Json)
  /-- A file is taken away. -/
  | erase (path : String)

/-- The path of the file that is changed. -/
def FileChange.path : FileChange → String
  | .insert file _ => file.path
  | .erase path => path

namespace Workspace

/-- The workspace after a change. -/
def changed (workspace : Workspace) : FileChange → Workspace
  | .insert file tree => workspace.insert file tree
  | .erase path => workspace.erase path

/-- What the changed file was or is: its outline before the change or after it. -/
def HasVersion (workspace : Workspace) (change : FileChange) (file : FileOutline) : Prop :=
  workspace.file? change.path = some file ∨ (workspace.changed change).file? change.path = some file

variable {workspace : Workspace} {change : FileChange} {current file : FileOutline} {path : String}

/-- The files that are searched from a file are files of the workspace. -/
theorem mem_of_mem_filesFrom {current : Option String} (member : file ∈ workspace.filesFrom current)
    : file ∈ workspace.files.items := by
  cases current with
  | none => exact member
  | some path =>
      rcases List.mem_append.mp member with own | other
      · split at own
        · cases own
        · exact (KeyedList.get?_eq_some_iff.mp (Option.mem_toList.mp own)).1
      · exact (List.mem_filter.mp other).1

/-- All files of the workspace are searched. The empty path names no file to start from. -/
theorem mem_filesFrom {current : Option String} (named : current ≠ some "")
    (member : file ∈ workspace.files.items)
    : file ∈ workspace.filesFrom current := by
  cases current with
  | none => exact member
  | some path =>
      have given : path ≠ "" := fun empty => named (congrArg some empty)
      rw [filesFrom, if_neg given, List.mem_append]
      by_cases own : file.path = path
      · exact .inl (Option.mem_toList.mpr (KeyedList.get?_eq_some_iff.mpr ⟨member, own⟩))
      · exact .inr (List.mem_filter.mpr ⟨member, by simpa using own⟩)

/-- The other files stay, in the same order. -/
theorem others_changed
    : (workspace.changed change).files.items.filter (fun file => file.path ≠ change.path)
      = workspace.files.items.filter fun file => file.path ≠ change.path := by
  cases change with
  | insert file tree => exact filter_putItem FileOutline.path file workspace.files.items
  | erase path =>
      refine List.filter_eq_self.mpr ?_
      intro file member
      exact (List.mem_filter.mp member).2

/-- Another file is found as before. -/
theorem file?_changed (other : change.path ≠ path)
    : (workspace.changed change).file? path = workspace.file? path := by
  cases change with
  | insert file tree => exact KeyedList.get?_put_of_ne other
  | erase gone => exact KeyedList.get?_erase_of_ne (Ne.symm other)

/-- A search from a file ends there, or it goes through the other files. -/
theorem findSome?_filesFrom {α : Type} {find : FileOutline → Option α} (named : path ≠ "")
    (indexed : workspace.file? path = some current)
    : (workspace.filesFrom (some path)).findSome? find
      = (find current).or
          ((workspace.files.items.filter fun file => file.path ≠ path).findSome? find) := by
  rw [filesFrom, if_neg named, indexed, Option.toList_some, List.singleton_append,
    List.findSome?_cons]
  cases find current <;> rfl

/-- A file that gives no result can be left out of a search through all files but one. -/
theorem findSome?_skip {α : Type} {find : FileOutline → Option α} {skipped : String}
    (nothing : ∀ file, workspace.file? skipped = some file → find file = none)
    : (workspace.files.items.filter fun file => file.path ≠ path).findSome? find
      = ((workspace.files.items.filter fun file => file.path ≠ skipped).filter fun file =>
          file.path ≠ path).findSome? find := by
  rw [List.filter_comm]
  refine (findSome?_filter ?_).symm
  intro file member dropped
  have known := (List.mem_filter.mp member).1
  exact nothing file (KeyedList.get?_eq_some_iff.mpr ⟨known, by simpa using dropped⟩)

/-- A search from a file gives the same result after a change of another file, if it ends at the
first file wherever a version of the changed file would give a result.
-/
theorem findSome?_filesFrom_changed {α : Type} {find : FileOutline → Option α} (named : path ≠ "")
    (indexed : workspace.file? path = some current) (other : change.path ≠ path)
    (covered
      : ∀ file, workspace.HasVersion change file → (find file).isSome → (find current).isSome)
    : ((workspace.changed change).filesFrom (some path)).findSome? find
      = (workspace.filesFrom (some path)).findSome? find := by
  have stillIndexed : (workspace.changed change).file? path = some current := by
    rw [file?_changed other, indexed]
  rw [findSome?_filesFrom named indexed, findSome?_filesFrom named stillIndexed]
  cases here : find current with
  | some found => rfl
  | none =>
      have nothing (file : FileOutline) (version : workspace.HasVersion change file)
          : find file = none := by
        by_contra found
        have ended := covered file version (Option.isSome_iff_ne_none.mpr found)
        simp [here] at ended
      rw [findSome?_skip fun file old => nothing file (.inl old),
        findSome?_skip fun file new => nothing file (.inr new), others_changed]

end Workspace

end SolidityAtlas
