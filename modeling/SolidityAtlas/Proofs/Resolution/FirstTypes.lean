import SolidityAtlas.Proofs.FirstWith
import SolidityAtlas.Proofs.Resolution.TypeCandidates
import SolidityAtlas.Proofs.Resolution.TypeDefinitions

/-! The type that a name stands for is the first definition of its local name in the order of the
search: file by file, in the contracts that the name asks for. A function refers to one type for
each of its candidates that stands for one, and no two of them are the same definition.
-/

namespace SolidityAtlas

open Outcome

variable {workspace : Workspace} {settings : Settings} {function : FunctionDecl}
  {current : Option String} {file : FileOutline} {files : List FileOutline} {query : TypeQuery}
  {name : String} {names : List String} {reference : TypeReference}

-----------------------------------------------------------------------------------------
-- The order of the search
-----------------------------------------------------------------------------------------

/-- The types of a file that a query asks for: those in the contracts of its qualifier or, if it has
none, all of them.
-/
def FileOutline.typesFor (file : FileOutline) (query : TypeQuery) : List TypeDefinition :=
  match query.contract with
  | some qualifier => (file.contracts.filter (·.name = qualifier)).flatMap (·.types)
  | none => file.types

/-- The name that an answer to a query is shown under. -/
def TypeQuery.shown (query : TypeQuery) : String :=
  match query.contract with
  | some qualifier => qualifier ++ "." ++ query.name
  | none => query.name

/-- In contracts of one name a search for a type takes the first definition, by induction on the
contracts.
-/
theorem findSome?_typeAmong {contracts : List ContractDecl} {qualifier : String}
    (called : ∀ contract ∈ contracts, contract.name = qualifier)
    : (contracts.findSome? fun contract =>
        typeAmong (contract.name ++ "." ++ name) name contract.structs contract.enums)
      = ((contracts.flatMap (·.types)).find? fun definition => definition.name = name).map
          (.toDefinition (qualifier ++ "." ++ name)) := by
  induction contracts with
  | nil => rfl
  | cons contract rest ih =>
      have own : typeAmong (contract.name ++ "." ++ name) name contract.structs contract.enums
          = (contract.types.find? fun definition => definition.name = name).map
              (.toDefinition (qualifier ++ "." ++ name)) := by
        rw [typeAmong_eq, called contract List.mem_cons_self, ContractDecl.types]
      have later := ih fun other member => called other (List.mem_cons_of_mem contract member)
      rw [List.findSome?_cons, List.flatMap_cons, List.find?_append, Option.map_or, own, later]
      cases contract.types.find? fun definition => definition.name = name <;> rfl

/-- A file answers a query by the first definition of the name among the types that it asks for. -/
theorem findType_eq
    : file.findType query
      = ((file.typesFor query).find? fun definition => definition.name = query.name).map
          (.toDefinition query.shown) := by
  obtain ⟨contract, name⟩ := query
  cases contract with
  | none => exact findType_bare
  | some qualifier =>
      refine findSome?_typeAmong ?_
      intro contract member
      simpa using (List.mem_filter.mp member).2

/-- Among files a name stands for the first definition of its local name among the types that it
asks for.
-/
theorem resolveTypeIn_eq
    : resolveTypeIn files name
      = ((files.flatMap (·.typesFor (.ofName name))).find? fun definition =>
          definition.name = Text.unqualified name).map (.toDefinition (TypeQuery.ofName name).shown)
    := by
  rw [resolveTypeIn, List.find?_flatMap, List.map_findSome?]
  simp only [findType_eq, TypeQuery.name_ofName, Function.comp_def]

-----------------------------------------------------------------------------------------
-- Types of a function
-----------------------------------------------------------------------------------------

/-- A reference shows the first definition that a name stands for among files. -/
def TypeReference.IsFirst (files : List FileOutline) (name : String) (reference : TypeReference)
    : Prop :=
  ∃ definition,
    FirstWith (fun definition => definition.name = Text.unqualified name)
      (files.flatMap (·.typesFor (.ofName name))) definition
    ∧ reference = .toDefinition (TypeQuery.ofName name).shown definition

/-- A name is found by the first definition that it stands for. -/
theorem resolveTypeIn_eq_some_iff
    : resolveTypeIn files name = some reference ↔ reference.IsFirst files name := by
  rw [resolveTypeIn_eq, Option.map_eq_some_iff]
  refine exists_congr fun definition => and_congr ?_ eq_comm
  exact find?_eq_some_iff_firstWith fun definition => decide_eq_true_iff

/-- A bare name stands for the first definition of this name. -/
theorem TypeReference.isFirst_bare_iff (bare : '.' ∉ name.toList)
    : reference.IsFirst files name
      ↔ ∃ definition,
          FirstWith (fun definition => definition.name = name) (files.flatMap (·.types)) definition
          ∧ reference = .toDefinition name definition := by
  rw [IsFirst, TypeQuery.ofName_of_not_mem bare, Text.unqualified_of_not_mem bare]
  rfl

/-- A name is found among files if one of them defines a type for it. -/
theorem isSome_resolveTypeIn_iff
    : (resolveTypeIn files name).isSome ↔ ∃ file ∈ files, file.DefinesType (.ofName name) := by
  simp only [resolveTypeIn, List.isSome_findSome?, List.any_eq_true, isSome_findType_iff]

/-- The types of a function are what its candidates stand for. -/
theorem Workspace.typesOf_eq (listed : candidateTypes settings function = .ok names)
    : workspace.typesOf settings function current
      = .ok (names.filterMap (resolveTypeIn (workspace.filesFrom current))) := by
  rw [Workspace.typesOf, listed]
  rfl

/-- The types of a function differ in their definitions. -/
theorem Workspace.nodup_definitions {types : List TypeReference}
    (done : workspace.typesOf settings function current = .ok types)
    : (types.map (·.definition)).Nodup := by
  obtain ⟨shown, distinct⟩ := typesOf_spec done
  refine List.Nodup.of_map (Option.map TypeDefinition.name) ?_
  have names : (types.map (·.definition)).map (Option.map TypeDefinition.name)
      = (types.map fun reference => Text.unqualified reference.name).map some := by
    rw [List.map_map, List.map_map]
    refine List.map_congr_left ?_
    intro reference member
    obtain ⟨definition, shows⟩ := shown reference member
    simp [shows.defined, shows.named]
  rw [names]
  exact distinct.map fun _ _ => Option.some.inj

/-- With settings that answer, every function has candidates for types: they differ in their local
names, all of them come from its declared types or are capitalised words of its source, and no word
is missed that may name a type and is no constant. In every workspace its types are then known: one
for each candidate that a file defines a type for, in the order of the candidates, each the first
definition that its candidate stands for, and no definition twice.
-/
theorem exists_candidates_and_types (bounded : Succeeds settings.minTypeNameLength)
    (skips : Succeeds settings.skipInterfaceTypes) (function : FunctionDecl)
    : ∃ names,
        candidateTypes settings function = .ok names
        ∧ function.HasCandidates settings names
        ∧ ∀ (workspace : Workspace) (current : Option String),
            ∃ references,
              workspace.typesOf settings function current = .ok references
              ∧ List.Forall₂ (fun name reference =>
                    reference.IsFirst (workspace.filesFrom current) name)
                  (names.filter fun name =>
                    ∃ file ∈ workspace.filesFrom current, file.DefinesType (.ofName name))
                  references
              ∧ (references.map (·.definition)).Nodup := by
  obtain ⟨names, listed⟩ := exists_candidateTypes bounded skips function
  refine ⟨names, listed, hasCandidates_of_candidateTypes listed, ?_⟩
  intro workspace current
  have resolved : workspace.typesOf settings function current = _ :=
    Workspace.typesOf_eq listed
  refine ⟨_, resolved, ?_, Workspace.nodup_definitions resolved⟩
  refine (forall₂_filterMap (fun name => isSome_resolveTypeIn_iff) names).imp ?_
  intro name reference found
  exact resolveTypeIn_eq_some_iff.mp found

-----------------------------------------------------------------------------------------
-- Example
-----------------------------------------------------------------------------------------

/-- A function with a source and the types of its parameters. -/
def typedFunction (types : List String) (source : String) : FunctionDecl :=
  { name := "swap"
    visibility := "public"
    mutability := none
    parameters := types.map fun typeName =>
      { name := "p", typeName := typeName, storage := some "memory" }
    returns := []
    modifiers := []
    body := "\x7b \x7d"
    source := source
    location := ⟨⟨9, 4⟩, ⟨9, 90⟩⟩
    path := "vault.sol"
    contract := none }

/-- A struct of a contract. -/
def contractStruct (contract name : String) : StructDecl :=
  { name := name
    members := []
    source := "struct " ++ name ++ " \x7b \x7d"
    location := ⟨⟨2, 4⟩, ⟨2, 20⟩⟩
    path := "vault.sol"
    contract := some contract }

/-- A contract that declares structs and nothing else. -/
def structContract (kind : ContractKind) (name : String) (structs : List String) : ContractDecl :=
  { name := name
    kind := kind
    functions := []
    structs := structs.map (contractStruct name)
    enums := []
    stateVariables := []
    bases := []
    location := ⟨⟨1, 0⟩, ⟨8, 1⟩⟩
    path := "vault.sol" }

/-- A workspace of one file with contracts. -/
def contractsWorkspace (contracts : List ContractDecl) : Workspace :=
  .ofFiles
    [{ path := "vault.sol"
       contracts := contracts
       imports := []
       pragmas := []
       structs := []
       enums := []
       functions := [] }]
    []

/-- A function with a qualified type, a type in its body, a constant, and a name that is part of a
word with a letter of another script.
-/
def swapFunction : FunctionDecl :=
  typedFunction ["Vault.Pool[]"]
    "function swap(Vault.Pool[] memory p) \x7b Mode m = LIMIT; éMode(p); \x7d"

/-- The candidates of the function, and the two of them that a contract defines. -/
theorem exists_candidates_and_types_swap
    : let settings := SettingTables.default.settings
      let workspace :=
        contractsWorkspace
          [structContract .contract "Bank" ["Pool"],
           structContract .contract "Vault" ["Mode", "Pool"]]
      (Succeeds settings.minTypeNameLength ∧ Succeeds settings.skipInterfaceTypes)
      ∧ swapFunction.HasCandidates settings ["Vault.Pool", "Mode", "Vault"]
      ∧ ∃ references,
          workspace.typesOf settings swapFunction none = .ok references
          ∧ List.Forall₂ (fun name reference =>
                reference.IsFirst (workspace.filesFrom none) name)
              ["Vault.Pool", "Mode"] references
          ∧ references.map (·.definition)
            = [some (.struct (contractStruct "Vault" "Pool")),
               some (.struct (contractStruct "Vault" "Mode"))] := by
  intro settings workspace
  have answers : Succeeds settings.minTypeNameLength ∧ Succeeds settings.skipInterfaceTypes :=
    ⟨⟨_, rfl⟩, ⟨_, rfl⟩⟩
  obtain ⟨names, listed, candidates, resolved⟩ :=
    exists_candidates_and_types answers.1 answers.2 swapFunction
  have known : candidateTypes settings swapFunction = .ok ["Vault.Pool", "Mode", "Vault"] := rfl
  obtain rfl := Except.ok.inj (known.symm.trans listed)
  obtain ⟨references, done, pairs, -⟩ := resolved workspace none
  have found : ["Vault.Pool", "Mode", "Vault"].filter (fun name =>
      ∃ file ∈ workspace.filesFrom none, file.DefinesType (.ofName name))
        = ["Vault.Pool", "Mode"] := by
    decide
  refine ⟨answers, candidates, references, done, found ▸ pairs, ?_⟩
  obtain rfl := Except.ok.inj (Eq.trans rfl done)
  rfl

end SolidityAtlas
