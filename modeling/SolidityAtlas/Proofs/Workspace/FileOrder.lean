import SolidityAtlas.Proofs.Resolution.TypeDefinitions
import SolidityAtlas.Proofs.Workspace.FileChanges
import Mathlib.Data.List.Nodup

/-! The order of files as the searches see it. A search for a name in which at most one file can
answer finds the same in every order of the files, wherever it starts. Within a file the order
stays, so a file may define a name more than once.
-/

namespace SolidityAtlas

/-- Where at most one item has results, the results do not depend on the order of the items.
Induction on the permutation; of two items that change places one has no results.
-/
theorem flatMap_eq_of_perm {α β : Type} {results : α → List β} {items others : List α}
    (perm : items.Perm others)
    (apart : items.Pairwise fun first second => results first = [] ∨ results second = [])
    : items.flatMap results = others.flatMap results := by
  induction perm with
  | nil => rfl
  | cons item _ ih =>
      rw [List.flatMap_cons, List.flatMap_cons, ih (List.pairwise_cons.mp apart).2]
  | swap first second rest =>
      have pair := (List.pairwise_cons.mp apart).1 first List.mem_cons_self
      simp only [List.flatMap_cons]
      rcases pair with nothing | nothing
      · rw [nothing, List.nil_append, List.nil_append]
      · rw [nothing, List.nil_append, List.nil_append]
  | trans earlier _ ihEarlier ihLater =>
      have still := (earlier.pairwise_iff Or.symm).mp apart
      exact (ihEarlier apart).trans (ihLater still)

/-- Every name of a sort is defined in at most one of the files. -/
def NamesApart (names : FileOutline → List String) (files : List FileOutline) : Prop :=
  ∀ first ∈ files, ∀ second ∈ files, ∀ name ∈ names first, name ∈ names second → first = second

instance {names : FileOutline → List String} {files : List FileOutline}
    : Decidable (NamesApart names files) :=
  inferInstanceAs (Decidable (∀ first ∈ files, _))

/-- The names of types, of functions, of state variables and of contracts are each defined in at
most one of the files.
-/
structure FilesApart (files : List FileOutline) : Prop where
  types : NamesApart (fun file => file.types.map (·.name)) files
  functions : NamesApart (fun file => file.allFunctions.map (·.name)) files
  stateVariables : NamesApart (fun file => file.stateVariables.map (·.name)) files
  contracts : NamesApart (fun file => file.contracts.map (·.name)) files

-----------------------------------------------------------------------------------------
-- Searches
-----------------------------------------------------------------------------------------

variable {names : FileOutline → List String} {files others : List FileOutline} {α : Type}

/-- What files have under a name does not depend on their order. -/
theorem NamesApart.flatMap_eq (apart : NamesApart names files) (distinct : files.Nodup)
    (perm : files.Perm others) {results : FileOutline → List α} (name : String)
    (named : ∀ file, results file ≠ [] → name ∈ names file)
    : files.flatMap results = others.flatMap results := by
  refine flatMap_eq_of_perm perm (distinct.imp_of_mem ?_)
  intro first second inFirst inSecond different
  by_contra both
  obtain ⟨some, other⟩ := not_or.mp both
  exact different
    (apart first inFirst second inSecond name (named first some) (named second other))

/-- What a search for a name finds does not depend on the order of the files. -/
theorem NamesApart.findSome?_eq (apart : NamesApart names files) (distinct : files.Nodup)
    (perm : files.Perm others) {find : FileOutline → Option α} (name : String)
    (named : ∀ file found, find file = some found → name ∈ names file)
    : files.findSome? find = others.findSome? find := by
  have first (list : List FileOutline)
      : list.findSome? find = (list.flatMap fun file => (find file).toList).head? := by
    simp [List.head?_flatMap]
  rw [first, first, apart.flatMap_eq distinct perm name]
  intro file some
  obtain ⟨found, answer⟩ := Option.ne_none_iff_exists'.mp (by simpa using some)
  exact named file found answer

/-- Fewer files are apart when more files are. -/
theorem NamesApart.mono (apart : NamesApart names files) (subset : others ⊆ files)
    : NamesApart names others :=
  fun first inFirst second inSecond => apart first (subset inFirst) second (subset inSecond)

-----------------------------------------------------------------------------------------
-- Files of a workspace
-----------------------------------------------------------------------------------------

namespace Workspace

variable {first second : Workspace} {current : Option String} {find : FileOutline → Option α}

/-- No file stands in a workspace twice. -/
theorem nodup_files (workspace : Workspace) : workspace.files.items.Nodup :=
  List.Nodup.of_map _ workspace.files.nodup

/-- A path stands for the same file in every order of the files. -/
theorem file?_of_perm (perm : first.files.items.Perm second.files.items)
    : first.file? = second.file? := by
  funext path
  refine Option.ext fun file => ?_
  rw [file?, file?, KeyedList.get?_eq_some_iff, KeyedList.get?_eq_some_iff, perm.mem_iff]

/-- From each file the same files are searched, if in another order. -/
theorem filesFrom_perm (perm : first.files.items.Perm second.files.items)
    : (first.filesFrom current).Perm (second.filesFrom current) := by
  cases current with
  | none => exact perm
  | some path =>
      rw [filesFrom, filesFrom, file?_of_perm perm]
      exact (perm.filter _).append_left _

/-- No file is searched twice. -/
theorem nodup_filesFrom (workspace : Workspace) : (workspace.filesFrom current).Nodup := by
  cases current with
  | none => exact workspace.nodup_files
  | some path =>
      rw [filesFrom, List.nodup_append]
      refine ⟨?_, workspace.nodup_files.filter _, ?_⟩
      · split
        · exact List.nodup_nil
        · cases workspace.file? path <;> simp
      · intro own listed other member same
        have elsewhere : other.path ≠ path := by simpa using (List.mem_filter.mp member).2
        split at listed
        · cases listed
        · have found := KeyedList.get?_eq_some_iff.mp (Option.mem_toList.mp listed)
          exact elsewhere (same ▸ found.2)

/-- A search for a name from a file finds the same in every order of the files. -/
theorem findSome?_filesFrom_of_perm (perm : first.files.items.Perm second.files.items)
    (apart : NamesApart names first.files.items) (name : String)
    (named : ∀ file found, find file = some found → name ∈ names file)
    : (first.filesFrom current).findSome? find = (second.filesFrom current).findSome? find :=
  (apart.mono fun _ => mem_of_mem_filesFrom).findSome?_eq first.nodup_filesFrom
    (filesFrom_perm perm) name named

end Workspace

end SolidityAtlas
