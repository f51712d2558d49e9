import SolidityAtlas.Workspace.Build
import SolidityAtlas.Proofs.KeyedList
import SolidityAtlas.Proofs.Outline.Extraction

/-! A workspace that is kept up to date edit by edit is the workspace that its source texts would
give if they were all parsed anew, with the same files and trees in the same order.
-/

namespace SolidityAtlas

open Outcome

/-- A change to one file of a workspace. -/
inductive Edit where
  /-- A file has a new text, or is new itself. -/
  | reindex (source : SourceText)
  /-- A file is taken away. -/
  | remove (path : String)
  deriving DecidableEq, Repr

/-- A workspace under change and the source texts that it has to stand for. -/
structure Revision where
  sources : Sources
  workspace : Workspace

namespace Revision

/-- The revision after an edit. A text that is parsed takes the place of the old one, or the last
place if there is none; a text that is refused changes nothing.
-/
def edited (parser : Parser) (revision : Revision) : Edit → Revision
  | .reindex source =>
      match revision.workspace.reindex parser source with
      | .ok workspace => { sources := revision.sources.put source, workspace := workspace }
      | .error _ => revision
  | .remove path =>
      { sources := revision.sources.erase path, workspace := revision.workspace.erase path }

/-- The revision after a run of edits. -/
def run (parser : Parser) (revision : Revision) (edits : List Edit) : Revision :=
  edits.foldl (edited parser) revision

end Revision

-----------------------------------------------------------------------------------------
-- Workspaces that stand for source texts
-----------------------------------------------------------------------------------------

/-- A text is parsed when the parser gives a tree and the tree an outline. -/
theorem SourceText.parse_eq_ok_iff {parser : Parser} {source : SourceText} {tree : Json}
    {file : FileOutline}
    : source.parse parser = .ok (tree, file)
      ↔ parser source = .ok tree ∧ outlineOf tree source.text source.path = .ok file := by
  unfold SourceText.parse
  cases parser source with
  | error message => simp
  | ok found =>
      simp only [bind_eq_ok_iff, pure_eq_ok_iff, Prod.mk.injEq, Except.ok.injEq]
      constructor
      · rintro ⟨outline, done, rfl, rfl⟩
        exact ⟨rfl, done⟩
      · rintro ⟨rfl, done⟩
        exact ⟨file, done, rfl, rfl⟩

/-- The outline of a text belongs to the path of the text. -/
theorem SourceText.path_of_parse {parser : Parser} (source : SourceText)
    (parsed : Json × FileOutline) (done : source.parse parser = .ok parsed)
    : source.path = parsed.2.path :=
  (outlineOf_spec (parse_eq_ok_iff.mp done).2).2.stored.symm

namespace Workspace

variable {parser : Parser} {sources : Sources} {workspace : Workspace}

/-- The trees and outlines in `parsed` are those of the source texts, and the workspace holds them
in this order.
-/
structure StandsFor (parser : Parser) (sources : Sources) (parsed : List (Json × FileOutline))
    (workspace : Workspace)
    : Prop where
  each
    : List.Forall₂ (fun source result => source.parse parser = .ok result) sources.items parsed
  files : workspace.files.items = parsed.map (·.2)
  trees : workspace.trees.items = parsed.map fun result => (result.2.path, result.1)

/-- A workspace contains the paths that have a file. -/
theorem contains_eq_isSome (path : String)
    : workspace.contains path = (workspace.file? path).isSome :=
  KeyedList.contains_eq_isSome

/-- Parsed texts have distinct paths, as their sources have. -/
theorem distinct_parsed {parsed : List (Json × FileOutline)}
    (each
      : List.Forall₂ (fun source result => source.parse parser = .ok result) sources.items parsed)
    : (parsed.map (·.2.path)).Nodup := by
  have sameKeys : sources.items.map SourceText.path = parsed.map (·.2.path) :=
    map_key_of_forall₂ SourceText.path_of_parse each
  exact sameKeys ▸ sources.nodup

/-- Files and trees that were parsed from the source texts make a workspace that stands for them. -/
theorem standsFor_ofFiles {parsed : List (Json × FileOutline)}
    (each
      : List.Forall₂ (fun source result => source.parse parser = .ok result) sources.items parsed)
    : StandsFor parser sources parsed
        (ofFiles (parsed.map (·.2)) (parsed.map fun result => (result.2.path, result.1))) := by
  refine ⟨each, ?_, ?_⟩
  · exact KeyedList.items_ofList (by simpa [Function.comp_def] using distinct_parsed each)
  · exact KeyedList.items_ofList (by simpa [Function.comp_def] using distinct_parsed each)

/-- A workspace that stands for source texts is the only one. -/
theorem StandsFor.unique {parsed : List (Json × FileOutline)} {other : Workspace}
    (first : StandsFor parser sources parsed workspace)
    (second : StandsFor parser sources parsed other)
    : workspace = other := by
  cases workspace
  cases other
  congr
  · exact KeyedList.ext (first.files.trans second.files.symm)
  · exact KeyedList.ext (first.trees.trans second.trees.symm)

/-- Building gives the workspace that stands for the source texts, and fails if there is none. -/
theorem build_eq_ok_iff
    : build parser sources = .ok workspace
      ↔ ∃ parsed, StandsFor parser sources parsed workspace := by
  simp only [build, bind_eq_ok_iff, pure_eq_ok_iff, mapM_eq_ok_iff]
  constructor
  · rintro ⟨parsed, each, rfl⟩
    exact ⟨parsed, standsFor_ofFiles each⟩
  · rintro ⟨parsed, stands⟩
    exact ⟨parsed, stands.each, (standsFor_ofFiles stands.each).unique stands⟩

/-- Every file of a workspace that was built is the outline of a source text. -/
theorem exists_outlineOf_of_build (built : build parser sources = .ok workspace)
    {file : FileOutline} (indexed : file ∈ workspace.files.items)
    : ∃ tree source, outlineOf tree source file.path = .ok file := by
  obtain ⟨parsed, stands⟩ := build_eq_ok_iff.mp built
  rw [stands.files] at indexed
  obtain ⟨result, member, rfl⟩ := List.mem_map.mp indexed
  obtain ⟨source, -, read⟩ := forall₂_mem_right stands.each result member
  have located := SourceText.path_of_parse source result read
  exact ⟨result.1, source.text, located ▸ (SourceText.parse_eq_ok_iff.mp read).2⟩

/-- Indexing a text anew puts its file and its tree where the text is put. -/
theorem StandsFor.reindex {parsed : List (Json × FileOutline)} {source : SourceText}
    {next : Workspace} (stands : StandsFor parser sources parsed workspace)
    (done : workspace.reindex parser source = .ok next)
    : ∃ result,
        StandsFor parser (sources.put source) (putItem (·.2.path) result parsed) next := by
  simp only [Workspace.reindex, bind_eq_ok_iff, pure_eq_ok_iff] at done
  obtain ⟨⟨tree, file⟩, read, rfl⟩ := done
  refine ⟨(tree, file), ?_, ?_, ?_⟩
  · exact forall₂_putItem SourceText.path_of_parse stands.each read
  · have files
        : (putItem (·.2.path) (tree, file) parsed).map (·.2)
          = putItem FileOutline.path file (parsed.map (·.2)) := by
      refine map_putItem ?_ _ _
      exact fun _ => rfl
    rw [files, ← stands.files]
    rfl
  · have trees
        : (putItem (·.2.path) (tree, file) parsed).map (fun result => (result.2.path, result.1))
          = putItem (·.1) (file.path, tree)
              (parsed.map fun result => (result.2.path, result.1)) := by
      refine map_putItem ?_ _ _
      exact fun _ => rfl
    rw [trees, ← stands.trees]
    rfl

/-- Taking a file away takes it from where its text is taken away. -/
theorem StandsFor.erase {parsed : List (Json × FileOutline)}
    (stands : StandsFor parser sources parsed workspace) (path : String)
    : StandsFor parser (sources.erase path) (parsed.filter fun result => result.2.path ≠ path)
        (workspace.erase path) := by
  refine ⟨?_, ?_, ?_⟩
  · exact forall₂_eraseKey SourceText.path_of_parse stands.each path
  · simp only [Workspace.erase, KeyedList.erase, stands.files, List.filter_map, Function.comp_def]
  · simp only [Workspace.erase, KeyedList.erase, stands.trees, List.filter_map, Function.comp_def]

/-- A path either has no file and no tree, or it has both, and they are what its source text gives.
-/
theorem StandsFor.lookup {parsed : List (Json × FileOutline)}
    (stands : StandsFor parser sources parsed workspace) (path : String)
    : workspace.file? path = none ∧ workspace.tree? path = none
      ∨ ∃ source tree file,
          sources.get? path = some source
          ∧ source.parse parser = .ok (tree, file)
          ∧ workspace.file? path = some file
          ∧ workspace.tree? path = some tree := by
  have file
      : workspace.file? path = (parsed.find? fun result => result.2.path = path).map (·.2) := by
    simp only [Workspace.file?, KeyedList.get?, stands.files, List.find?_map, Function.comp_def]
  have tree
      : workspace.tree? path = (parsed.find? fun result => result.2.path = path).map (·.1) := by
    simp only [Workspace.tree?, OrderedMap.value?, KeyedList.get?, stands.trees, List.find?_map,
      Function.comp_def, Option.map_map]
  cases found : parsed.find? fun result => result.2.path = path with
  | none => exact .inl ⟨by rw [file, found, Option.map_none], by rw [tree, found, Option.map_none]⟩
  | some result =>
      have member := List.mem_of_find?_eq_some found
      have located : result.2.path = path := by simpa using List.find?_some found
      obtain ⟨source, known, read⟩ := forall₂_mem_right stands.each result member
      refine .inr ⟨source, result.1, result.2, ?_, read, ?_, ?_⟩
      · exact KeyedList.get?_eq_some_iff.mpr
          ⟨known, (SourceText.path_of_parse source result read).trans located⟩
      · rw [file, found, Option.map_some]
      · rw [tree, found, Option.map_some]

end Workspace

-----------------------------------------------------------------------------------------
-- Runs of edits
-----------------------------------------------------------------------------------------

namespace Revision

variable {parser : Parser}

/-- Whether the workspace of a revision is what its source texts give. -/
def IsCurrent (parser : Parser) (revision : Revision) : Prop :=
  ∃ parsed, revision.workspace.StandsFor parser revision.sources parsed

/-- An edit keeps a revision current, also where it fails. -/
theorem IsCurrent.edited {revision : Revision} (current : revision.IsCurrent parser) (edit : Edit)
    : (revision.edited parser edit).IsCurrent parser := by
  obtain ⟨parsed, stands⟩ := current
  cases edit with
  | remove path => exact ⟨_, stands.erase path⟩
  | reindex source =>
      cases done : revision.workspace.reindex parser source with
      | error failure => simpa only [Revision.edited, done] using ⟨parsed, stands⟩
      | ok next =>
          obtain ⟨result, after⟩ := stands.reindex done
          simpa only [Revision.edited, done] using ⟨_, after⟩

/-- A run of edits keeps a revision current, by induction on the edits. -/
theorem IsCurrent.run {revision : Revision} (current : revision.IsCurrent parser)
    (edits : List Edit)
    : (revision.run parser edits).IsCurrent parser := by
  induction edits generalizing revision with
  | nil => exact current
  | cons edit rest ih => exact ih (current.edited edit)

/-- After any run of edits the workspace is what building all current source texts anew gives. It
has trees for exactly its files, and each tree is the one its file was extracted from.
-/
theorem build_run {sources : Sources} {workspace : Workspace}
    (built : Workspace.build parser sources = .ok workspace) (edits : List Edit)
    : let final := run parser { sources := sources, workspace := workspace } edits
      Workspace.build parser final.sources = .ok final.workspace
      ∧ (∀ path,
          (final.workspace.tree? path).isSome = final.workspace.contains path)
      ∧ ∀ path file,
          final.workspace.file? path = some file
          → ∃ source tree,
              final.sources.get? path = some source
              ∧ final.workspace.tree? path = some tree
              ∧ parser source = .ok tree
              ∧ outlineOf tree source.text path = .ok file := by
  intro final
  have start : IsCurrent parser { sources := sources, workspace := workspace } :=
    Workspace.build_eq_ok_iff.mp built
  have current : final.IsCurrent parser := start.run edits
  refine ⟨Workspace.build_eq_ok_iff.mpr current, ?_, ?_⟩
  all_goals obtain ⟨parsed, stands⟩ := current
  · intro path
    rcases stands.lookup path with ⟨noFile, noTree⟩ | ⟨source, tree, file, -, -, hasFile, hasTree⟩
    · rw [noTree, Workspace.contains_eq_isSome, noFile]
      rfl
    · rw [hasTree, Workspace.contains_eq_isSome, hasFile]
      rfl
  · intro path file found
    rcases stands.lookup path with ⟨noFile, -⟩
      | ⟨source, tree, other, known, read, hasFile, hasTree⟩
    · rw [noFile] at found
      cases found
    · obtain rfl : other = file := Option.some.inj (hasFile.symm.trans found)
      have located : source.path = path := (KeyedList.get?_eq_some_iff.mp known).2
      obtain ⟨accepted, outlined⟩ := SourceText.parse_eq_ok_iff.mp read
      exact ⟨source, tree, known, hasTree, accepted, located ▸ outlined⟩

/-- A parser that takes every text but the empty one for a file without declarations. -/
def emptyUnits : Parser :=
  fun source =>
    if source.text = "" then .error "empty" else .ok (.obj [("type", .str "SourceUnit")])

/-- A text is refused, its file is removed, another one is added, and the first one comes back last.
-/
theorem build_run_readded
    : let sources : Sources := .ofList [⟨"a.sol", "a"⟩, ⟨"b.sol", "b"⟩]
      let edits : List Edit :=
        [.reindex ⟨"a.sol", ""⟩, .remove "a.sol", .reindex ⟨"c.sol", "c"⟩,
         .reindex ⟨"a.sol", "again"⟩]
      ∃ workspace,
        Workspace.build emptyUnits sources = .ok workspace
        ∧ let final := run emptyUnits { sources := sources, workspace := workspace } edits
          final.sources.items = [⟨"b.sol", "b"⟩, ⟨"c.sol", "c"⟩, ⟨"a.sol", "again"⟩]
          ∧ Workspace.build emptyUnits final.sources = .ok final.workspace := by
  intro sources edits
  have built
      : Workspace.build emptyUnits sources
        = .ok (.ofFiles [.empty "a.sol", .empty "b.sol"]
            [("a.sol", .obj [("type", .str "SourceUnit")]),
             ("b.sol", .obj [("type", .str "SourceUnit")])]) :=
    rfl
  exact ⟨_, built, rfl, (build_run built edits).1⟩

end Revision

end SolidityAtlas
