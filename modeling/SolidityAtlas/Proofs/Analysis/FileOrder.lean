import SolidityAtlas.Analysis.Lookup
import SolidityAtlas.Proofs.Inheritance.FileOrder

/-! The order of the files of a workspace only matters for names that are defined in two files. If
no two files define a type, a function, a state variable or a contract of one name, workspaces of
the same files give the same analyses, findings and chains, whichever order the files came in, and
the same inheritors and implementations up to their order.
-/

namespace SolidityAtlas.Workspace

open InheritanceGraph (holding inheriting)

variable {first second : Workspace} {settings : Settings} {function : FunctionDecl}
  {current : Option String} {name : String}

-----------------------------------------------------------------------------------------
-- Names
-----------------------------------------------------------------------------------------

/-- A file answers for the local name of a type that it defines. -/
theorem mem_types_of_findType {file : FileOutline} {query : TypeQuery} {reference : TypeReference}
    (found : file.findType query = some reference)
    : query.name ∈ file.types.map (·.name) := by
  obtain ⟨definition, member, named, -⟩ := exists_of_findType found
  exact List.mem_map.mpr ⟨definition, member, named⟩

/-- A file has a state variable of a name among its contracts, or among those of one name, if it
defines one.
-/
theorem mem_stateVariables_of_variableAmong {file : FileOutline} {keep : ContractDecl → Bool}
    {stored : StateVariable}
    (found : variableAmong (file.contracts.filter keep) name = some stored)
    : name ∈ file.stateVariables.map (·.name) := by
  obtain ⟨contract, kept, answer⟩ := List.exists_of_findSome?_eq_some found
  have declared := (List.mem_filter.mp kept).1
  have named : stored.name = name := by simpa using List.find?_some answer
  refine List.mem_map.mpr ⟨stored, List.mem_flatMap.mpr ⟨contract, declared, ?_⟩, named⟩
  exact List.mem_of_find?_eq_some answer

/-- A name stands for the same type in every order of the files. -/
theorem resolveTypeIn_of_perm (perm : first.files.items.Perm second.files.items)
    (apart : FilesApart first.files.items)
    : resolveTypeIn (first.filesFrom current) = resolveTypeIn (second.filesFrom current) := by
  funext name
  exact findSome?_filesFrom_of_perm perm apart.types _ fun _ _ => mem_types_of_findType

/-- A name stands for the same function in every order of the files. -/
theorem resolveFunctionIn_of_perm (perm : first.files.items.Perm second.files.items)
    (apart : FilesApart first.files.items)
    : resolveFunctionIn (first.filesFrom current)
      = resolveFunctionIn (second.filesFrom current) := by
  funext name
  refine findSome?_filesFrom_of_perm perm apart.functions name ?_
  intro file target found
  have named : target.name = name := by simpa using List.find?_some found
  exact List.mem_map.mpr ⟨target, List.mem_of_find?_eq_some found, named⟩

/-- A name has the same types in every order of the files. -/
theorem typesNamed_of_perm (perm : first.files.items.Perm second.files.items)
    (apart : FilesApart first.files.items)
    : first.typesNamed = second.typesNamed := by
  funext name
  rw [typesNamed, typesNamed, List.filterMap_eq_flatMap_toList, List.filterMap_eq_flatMap_toList]
  refine apart.types.flatMap_eq first.nodup_files perm (TypeQuery.ofName name).name ?_
  intro file some
  obtain ⟨reference, found⟩ := Option.ne_none_iff_exists'.mp (by simpa using some)
  exact mem_types_of_findType found

/-- A name has the same functions in every order of the files. -/
theorem functionsNamed_of_perm (perm : first.files.items.Perm second.files.items)
    (apart : FilesApart first.files.items)
    : first.functionsNamed = second.functionsNamed := by
  funext name
  refine apart.functions.flatMap_eq first.nodup_files perm (Text.unqualified name) ?_
  intro file some
  obtain ⟨function, member⟩ := List.exists_mem_of_ne_nil _ some
  obtain ⟨declared, named⟩ := List.mem_filter.mp member
  exact List.mem_map.mpr ⟨function, declared, by simpa using named⟩

/-- A name has the same state variables in every order of the files. -/
theorem variablesNamed_of_perm (perm : first.files.items.Perm second.files.items)
    (apart : FilesApart first.files.items)
    : first.variablesNamed = second.variablesNamed := by
  funext name
  rw [variablesNamed_eq, variablesNamed_eq]
  refine apart.stateVariables.flatMap_eq first.nodup_files perm name ?_
  intro file some
  obtain ⟨stored, member⟩ := List.exists_mem_of_ne_nil _ some
  obtain ⟨declared, named⟩ := List.mem_filter.mp member
  exact List.mem_map.mpr ⟨stored, declared, by simpa using named⟩

/-- A name stands for the same state variable in every order of the files, with every hint. -/
theorem resolveVariable_of_perm (perm : first.files.items.Perm second.files.items)
    (apart : FilesApart first.files.items) (hint : Option String)
    : first.resolveVariable name hint current = second.resolveVariable name hint current := by
  have among (keep : ContractDecl → Bool)
      : variableAmong (((first.filesFrom current).flatMap (·.contracts)).filter keep) name
        = variableAmong (((second.filesFrom current).flatMap (·.contracts)).filter keep) name := by
    rw [List.filter_flatMap, List.filter_flatMap, variableAmong, variableAmong,
      Pattern.findSome_flatMap, Pattern.findSome_flatMap]
    refine findSome?_filesFrom_of_perm perm apart.stateVariables name ?_
    exact fun _ _ => mem_stateVariables_of_variableAmong
  have all := among fun _ => true
  rw [List.filter_true, List.filter_true] at all
  simp only [resolveVariable, among, all]

-----------------------------------------------------------------------------------------
-- Answers
-----------------------------------------------------------------------------------------

/-- The analysis of a function is the same in every order of the files. -/
theorem analysisOf_of_perm (perm : first.files.items.Perm second.files.items)
    (apart : FilesApart first.files.items)
    : first.analysisOf settings function current = second.analysisOf settings function current := by
  have owner : first.contractOf = second.contractOf := by
    funext function
    rw [contractOf, contractOf, file?_of_perm perm]
  have calls (current : Option String)
      : CallSite.resolveIn (first.filesFrom current)
        = CallSite.resolveIn (second.filesFrom current) := by
    funext call
    rw [CallSite.resolveIn, CallSite.resolveIn, resolveFunctionIn_of_perm perm apart]
  simp only [analysisOf, typesOf, callsOf, variablesOf, owner, calls,
    resolveTypeIn_of_perm perm apart]

/-- A lookup finds the same in every order of the files. -/
theorem lookup_of_perm (perm : first.files.items.Perm second.files.items)
    (apart : FilesApart first.files.items)
    : first.lookup = second.lookup := by
  have ofKind : first.typesOfKind = second.typesOfKind := by
    funext name kind
    rw [typesOfKind, typesOfKind, typesNamed_of_perm perm apart]
  have candidates : first.typesFor = second.typesFor := by
    unfold typesFor
    rw [ofKind]
  have types : first.typeFinding = second.typeFinding := by
    funext request
    rw [typeFinding, typeFinding, candidates]
  have functions : first.functionFinding = second.functionFinding := by
    funext name
    rw [functionFinding, functionFinding, functionsNamed_of_perm perm apart]
  have stateVariables : first.variableFinding = second.variableFinding := by
    funext name hint
    rw [variableFinding, variableFinding, resolveVariable_of_perm perm apart,
      variablesNamed_of_perm perm apart]
  funext request
  rw [lookup, lookup, types, functions, stateVariables]

/-- Two workspaces give the same answers: the same analyses and findings, and graphs that agree or
cannot be built for the same reason.
-/
structure AgreesWith (first second : Workspace) : Prop where
  analyses
    : ∀ settings function current,
        first.analysisOf settings function current = second.analysisOf settings function current
  findings : ∀ request, first.lookup request = second.lookup request
  graphs
    : ∀ settings,
        (∃ failure,
          InheritanceGraph.ofWorkspace settings first = .error failure
          ∧ InheritanceGraph.ofWorkspace settings second = .error failure)
        ∨ ∃ graph other,
            InheritanceGraph.ofWorkspace settings first = .ok graph
            ∧ InheritanceGraph.ofWorkspace settings second = .ok other
            ∧ graph.AgreesWith other

/-- Where no name is defined in two files, the order of the files has no effect on answers: for
every list of files with distinct paths of which no two define a type, a function, a state variable
or a contract of one name, and every other order of this list, the workspaces agree on every
analysis, every finding and every chain, and on what inherits from a name and implements a method up
to the order. A file may still define a name more than once.
-/
theorem ofFiles_agreesWith {files others : List FileOutline}
    {trees otherTrees : List (String × Json)} (distinct : (files.map (·.path)).Nodup)
    (apart : FilesApart files) (perm : files.Perm others)
    : (ofFiles files trees).AgreesWith (ofFiles others otherTrees) := by
  have items : (ofFiles files trees).files.items = files := KeyedList.items_ofList distinct
  have otherItems : (ofFiles others otherTrees).files.items = others :=
    KeyedList.items_ofList ((perm.map _).nodup_iff.mp distinct)
  have reordered
      : (ofFiles files trees).files.items.Perm (ofFiles others otherTrees).files.items := by
    rwa [items, otherItems]
  have separate : FilesApart (ofFiles files trees).files.items := by rwa [items]
  exact
    { analyses := fun _ _ _ => analysisOf_of_perm reordered separate
      findings := congrFun (lookup_of_perm reordered separate)
      graphs := fun _ => InheritanceGraph.ofWorkspace_of_perm reordered separate }

/-- A function of a contract that is declared on one line. -/
def contractFunction (path contract name source : String) (line : Int) : FunctionDecl :=
  { name := name
    visibility := "public"
    mutability := none
    parameters := []
    returns := []
    modifiers := []
    body := "\x7b \x7d"
    source := source
    location := ⟨⟨line, 4⟩, ⟨line, 60⟩⟩
    path := path
    contract := some contract }

/-- A contract with a struct and a function that is overloaded. -/
def sharesOutline : FileOutline :=
  { holding "shares.sol"
      [{ inheriting "Shares" [] with
          functions :=
            [contractFunction "shares.sol" "Shares" "mint"
              "function mint() public \x7b \x7d" 3,
             contractFunction "shares.sol" "Shares" "mint"
              "function mint(uint amount) public \x7b \x7d" 4]
          path := "shares.sol" }] with
    structs :=
      [{ name := "Share"
         members := []
         source := "struct Share \x7b \x7d"
         location := ⟨⟨1, 0⟩, ⟨1, 16⟩⟩
         path := "shares.sol"
         contract := none }] }

/-- A contract below the other one, with a state variable and a function that uses them all. -/
def vaultOutline : FileOutline :=
  holding "vault.sol"
    [{ inheriting "Vault" ["Shares"] with
        functions :=
          [contractFunction "vault.sol" "Vault" "deposit"
            "function deposit() public \x7b Share memory share; total += 1; mint(); \x7d" 3]
        stateVariables :=
          [{ name := "total"
             typeName := "uint256"
             visibility := "default"
             source := "uint256 total"
             location := ⟨⟨2, 4⟩, ⟨2, 17⟩⟩
             path := "vault.sol"
             contract := "Vault" }]
        path := "vault.sol" }]

/-- Two files in both orders give the same answers, with a function that is overloaded in one of
them.
-/
theorem ofFiles_agreesWith_vault
    : let files := [sharesOutline, vaultOutline]
      let others := [vaultOutline, sharesOutline]
      (files.map (·.path)).Nodup
      ∧ FilesApart files
      ∧ files.Perm others
      ∧ (ofFiles files []).AgreesWith (ofFiles others []) := by
  intro files others
  have distinct : (files.map (·.path)).Nodup := by decide
  have apart : FilesApart files := ⟨by decide, by decide, by decide, by decide⟩
  have perm : files.Perm others := .swap vaultOutline sharesOutline []
  exact ⟨distinct, apart, perm, ofFiles_agreesWith distinct apart perm⟩

end SolidityAtlas.Workspace
