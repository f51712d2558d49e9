import SolidityAtlas.Proofs.Analysis.Provenance
import SolidityAtlas.Proofs.Resolution.QualifiedTypes

/-! One definition, all candidates, and hints. The search for the definition of a name takes the
first of its candidates. A hint at a contract puts what contracts of this name declare in front, and
it takes nothing away: where they declare nothing of the name, the answer is the one without the
hint.
-/

namespace SolidityAtlas

variable {workspace : Workspace} {hint name : String} {current : Option String}

-----------------------------------------------------------------------------------------
-- Candidates and hints
-----------------------------------------------------------------------------------------

/-- What a search of a workspace finds is the first of the candidates, and nothing only if there are
none; there are candidates if some file defines one.
-/
structure FirstOf {α : Type} (workspace : Workspace) (defines : FileOutline → Prop)
    (candidates : List α) (found : Option α)
    : Prop where
  first : found = candidates.head?
  missing : found = none ↔ candidates = []
  defined : candidates ≠ [] ↔ ∃ file ∈ workspace.files.items, defines file

/-- An answer to a question with a hint shows something that the hint is at, if there is anything,
and is the answer without the hint otherwise.
-/
structure FollowsHint {α β : Type} (hinted : α → Prop) (shows : β → α → Prop) (answer unhinted : β)
    : Prop where
  inside : (∃ item, hinted item) → ∃ item, hinted item ∧ shows answer item
  outside : (¬ ∃ item, hinted item) → answer = unhinted

/-- A search is for the first of the candidates if it takes their head and finds what files define. -/
theorem firstOf_of_eq_head? {α : Type} {defines : FileOutline → Prop} {candidates : List α}
    {found : Option α} (first : found = candidates.head?)
    (defined : found.isSome ↔ ∃ file ∈ workspace.files.items, defines file)
    : FirstOf workspace defines candidates found := by
  have missing : found = none ↔ candidates = [] := by rw [first, List.head?_eq_none_iff]
  refine ⟨first, missing, ?_⟩
  rw [← defined, Option.isSome_iff_ne_none, ne_eq, ne_eq, missing]

/-- A hint is kept unless it is empty. -/
theorem filter_hint (given : hint ≠ "") : (some hint).filter (· ≠ "") = some hint := by
  simp [Option.filter, given]

namespace Workspace

/-- The type that a name stands for is the first of its candidates. -/
theorem firstOf_typesNamed
    : FirstOf workspace (·.DefinesType (.ofName name)) (workspace.typesNamed name)
        (workspace.resolveType name) :=
  firstOf_of_eq_head? resolveType_eq_head? isSome_resolveTypeIn_iff

/-- The function that a name stands for is the first one of the name. -/
theorem firstOf_functionsNamed
    : FirstOf workspace (·.DefinesFunction (Text.unqualified name))
        (workspace.functionsNamed name) (workspace.resolveFunction name) := by
  refine firstOf_of_eq_head? ?_ ?_
  · simp only [resolveFunction, resolveFunctionIn, functionsNamed, List.head?_flatMap,
      List.head?_filter]
  · simp only [resolveFunction, resolveFunctionIn, List.isSome_findSome?, List.any_eq_true,
      isSome_findFunction_iff, filesFrom]

/-- The state variable that a name stands for is the first one of the name. -/
theorem firstOf_variablesNamed
    : FirstOf workspace (fun file => name ∈ file.stateVariables.map (·.name))
        (workspace.variablesNamed name) (workspace.resolveVariable name none none) := by
  refine firstOf_of_eq_head? resolveVariable_none ?_
  rw [resolveVariable_eq_findSome?, List.isSome_findSome?, List.any_eq_true]
  simp [filesFrom]

-----------------------------------------------------------------------------------------
-- State variables
-----------------------------------------------------------------------------------------

/-- A contract of a name declares a state variable. -/
def DeclaresVariableIn (workspace : Workspace) (contract : String) (stored : StateVariable)
    : Prop :=
  ∃ declared ∈ workspace.contracts, declared.name = contract ∧ stored ∈ declared.stateVariables

/-- The contracts that a hinted search goes through first. -/
def hintedContracts (workspace : Workspace) (hint : String) (current : Option String)
    : List ContractDecl :=
  ((workspace.filesFrom current).flatMap (·.contracts)).filter fun declared => declared.name = hint

/-- A hint is followed where the hinted contracts have the name, and it leaves the rest alone. -/
theorem resolveVariable_some (given : hint ≠ "")
    : workspace.resolveVariable name (some hint) current
      = (variableAmong (workspace.hintedContracts hint current) name).or
          (workspace.resolveVariable name none current) := by
  rw [resolveVariable, resolveVariable, filter_hint given]
  rfl

/-- What a part of some contracts declares all of them declare. -/
theorem isSome_variableAmong_of_subset {part contracts : List ContractDecl}
    (inside : part ⊆ contracts) (found : (variableAmong part name).isSome)
    : (variableAmong contracts name).isSome := by
  simp only [variableAmong, List.isSome_findSome?, List.any_eq_true] at found ⊢
  obtain ⟨declared, listed, declares⟩ := found
  exact ⟨declared, inside listed, declares⟩

/-- A hint decides which state variable is found, not whether one is found. -/
theorem isSome_resolveVariable_iff {hint : Option String}
    : (workspace.resolveVariable name hint current).isSome
      ↔ (workspace.resolveVariable name none current).isSome := by
  have unhinted
      : workspace.resolveVariable name none current
        = variableAmong ((workspace.filesFrom current).flatMap (·.contracts)) name := rfl
  rw [unhinted, resolveVariable, Option.isSome_or, Bool.or_eq_true, or_iff_right_iff_imp]
  split
  · exact isSome_variableAmong_of_subset (List.filter_subset_self _)
  · rintro ⟨⟩

/-- The hinted contracts are those of the workspace that have the name. -/
theorem mem_hintedContracts_iff (named : current ≠ some "") {declared : ContractDecl}
    : declared ∈ workspace.hintedContracts hint current
      ↔ declared ∈ workspace.contracts ∧ declared.name = hint := by
  rw [hintedContracts, List.mem_filter, decide_eq_true_iff]
  refine and_congr_left fun _ => ⟨fun listed => contracts_filesFrom_subset listed, fun listed => ?_⟩
  obtain ⟨file, indexed, inside⟩ := List.mem_flatMap.mp listed
  exact List.mem_flatMap.mpr ⟨file, mem_filesFrom named indexed, inside⟩

/-- A search for a state variable follows a hint at a contract. -/
theorem followsHint_resolveVariable (given : hint ≠ "") (named : current ≠ some "")
    : FollowsHint
        (fun stored => workspace.DeclaresVariableIn hint stored ∧ stored.name = name)
        (fun found stored => found = some stored)
        (workspace.resolveVariable name (some hint) current)
        (workspace.resolveVariable name none current) := by
  rw [resolveVariable_some given]
  cases first : variableAmong (workspace.hintedContracts hint current) name with
  | some stored =>
      obtain ⟨declared, searched, inside⟩ := List.exists_of_findSome?_eq_some first
      obtain ⟨listed, called⟩ := (mem_hintedContracts_iff named).mp searched
      have shown : workspace.DeclaresVariableIn hint stored ∧ stored.name = name :=
        ⟨⟨declared, listed, called, List.mem_of_find?_eq_some inside⟩,
          by simpa using List.find?_some inside⟩
      exact ⟨fun _ => ⟨stored, shown, rfl⟩, fun absent => absurd ⟨stored, shown⟩ absent⟩
  | none =>
      refine ⟨?_, fun _ => Option.none_or⟩
      rintro ⟨stored, ⟨declared, listed, called, inside⟩, same⟩
      have searched := (mem_hintedContracts_iff named).mpr ⟨listed, called⟩
      have nothing := List.findSome?_eq_none_iff.mp first declared searched
      simpa [same] using List.find?_eq_none.mp nothing stored inside

-----------------------------------------------------------------------------------------
-- Types
-----------------------------------------------------------------------------------------

/-- A file defines a qualified type if a contract that is called like the qualifier declares it. -/
theorem exists_definesType_qualified_iff
    : (∃ file ∈ workspace.files.items, file.DefinesType ⟨some hint, name⟩)
      ↔ ∃ definition, workspace.DeclaresIn hint definition ∧ definition.name = name := by
  have named (declared : ContractDecl)
      : name ∈ declared.structs.map (·.name) ++ declared.enums.map (·.name)
        ↔ ∃ definition ∈ declared.types, definition.name = name := by
    simp [ContractDecl.types, typesAmong, TypeDefinition.name, or_and_right, exists_or]
  simp only [FileOutline.DefinesType, DeclaresIn, named, Option.some.injEq, forall_eq',
    reduceCtorEq, false_and, or_false]
  constructor
  · rintro ⟨file, indexed, declared, listed, called, definition, inside, same⟩
    exact ⟨definition, ⟨file, indexed, declared, listed, called, inside⟩, same⟩
  · rintro ⟨definition, ⟨file, indexed, declared, listed, called, inside⟩, same⟩
    exact ⟨file, indexed, declared, listed, called, definition, inside, same⟩

/-- A lookup for a type asks for the type in the hinted contract first. -/
theorem typesFor_some (given : hint ≠ "") (bare : '.' ∉ name.toList)
    : workspace.typesFor { kind := .type, name := name, contract := some hint }
      = if workspace.typesNamed (hint ++ "." ++ name) = [] then
          workspace.typesFor { kind := .type, name := name, contract := none }
        else workspace.typesNamed (hint ++ "." ++ name) := by
  have all (asked : String) : workspace.typesOfKind asked .type = workspace.typesNamed asked :=
    List.filter_eq_self.mpr fun _ _ => rfl
  simp only [typesFor, filter_hint given, Text.qualifierAndName_of_not_mem bare, all, Option.filter_none,
    Option.isNone_none, if_true, List.isEmpty_iff]

/-- A lookup of a type follows a hint at a contract. -/
theorem followsHint_lookup (given : hint ≠ "") (plain : '.' ∉ hint.toList)
    (bare : '.' ∉ name.toList)
    : FollowsHint
        (fun definition => workspace.DeclaresIn hint definition ∧ definition.name = name)
        (fun finding definition =>
          finding.success = true ∧ finding.definitions = [.type definition])
        (workspace.lookup { kind := .type, name := name, contract := some hint })
        (workspace.lookup { kind := .type, name := name, contract := none }) := by
  have first : workspace.resolveType (hint ++ "." ++ name)
      = (workspace.typesNamed (hint ++ "." ++ name)).head? := resolveType_eq_head?
  constructor
  · intro declared
    have indexed := exists_definesType_qualified_iff.mpr declared
    obtain ⟨reference, definition, found, shown, inside⟩
        : workspace.ResolvesTo hint
            (resolveTypeIn (workspace.filesFrom none) (hint ++ "." ++ name)) :=
      resolvesTo_qualified nofun given plain bare indexed
    obtain ⟨_, shows⟩ := shows_of_resolveTypeIn found
    obtain rfl := Option.some.inj (shows.defined.symm.trans shown)
    refine ⟨_, ⟨inside, shows.named.trans (Text.unqualified_append hint bare)⟩, ?_⟩
    obtain ⟨rest, listed⟩ := List.head?_eq_some_iff.mp (first.symm.trans found)
    simp only [lookup, typeFinding, typesFor_some given bare, listed]
    simp [Finding.definitions, Finding.found, shown]
  · intro undeclared
    have missing : workspace.typesNamed (hint ++ "." ++ name) = [] := by
      rw [← List.head?_eq_none_iff, ← first, ← Option.not_isSome_iff_eq_none]
      intro found
      refine undeclared (exists_definesType_qualified_iff.mp ?_)
      have defined := isSome_resolveTypeIn_iff.mp found
      rwa [TypeQuery.ofName_append given plain bare] at defined
    have same : workspace.typesFor { kind := .type, name := name, contract := some hint }
        = workspace.typesFor { kind := .type, name := name, contract := none } := by
      rw [typesFor_some given bare, if_pos missing]
    simp only [lookup, typeFinding, same]

/-- The search for the type, the function or the state variable of a name takes the first of its
candidates, and finds nothing only if there are none. With a hint at a contract a state variable is
found just where one is found without it, and from the hinted contract if this declares the name.
A bare name of a type is looked up in the hinted contract if this declares it, and as without the
hint if not.
-/
theorem searches_take_first_and_follow_hints (workspace : Workspace) (name : String)
    : FirstOf workspace (·.DefinesType (.ofName name)) (workspace.typesNamed name)
        (workspace.resolveType name)
      ∧ FirstOf workspace (·.DefinesFunction (Text.unqualified name))
          (workspace.functionsNamed name) (workspace.resolveFunction name)
      ∧ FirstOf workspace (fun file => name ∈ file.stateVariables.map (·.name))
          (workspace.variablesNamed name) (workspace.resolveVariable name none none)
      ∧ ∀ hint,
          hint ≠ ""
          → '.' ∉ hint.toList
          → (∀ current,
              ((workspace.resolveVariable name (some hint) current).isSome
                ↔ (workspace.resolveVariable name none current).isSome)
              ∧ (current ≠ some ""
                → FollowsHint
                    (fun stored => workspace.DeclaresVariableIn hint stored ∧ stored.name = name)
                    (fun found stored => found = some stored)
                    (workspace.resolveVariable name (some hint) current)
                    (workspace.resolveVariable name none current)))
            ∧ ('.' ∉ name.toList
              → FollowsHint
                  (fun definition => workspace.DeclaresIn hint definition ∧ definition.name = name)
                  (fun finding definition =>
                    finding.success = true ∧ finding.definitions = [.type definition])
                  (workspace.lookup { kind := .type, name := name, contract := some hint })
                  (workspace.lookup { kind := .type, name := name, contract := none })) := by
  refine ⟨firstOf_typesNamed, firstOf_functionsNamed, firstOf_variablesNamed, ?_⟩
  intro hint given plain
  refine ⟨fun current => ⟨isSome_resolveVariable_iff, ?_⟩, ?_⟩
  · exact fun named => followsHint_resolveVariable given named
  · exact fun bare => followsHint_lookup given plain bare

/-- A file with an empty contract `Vault` in front of one that declares the struct `Pool` and the
state variable `total`.
-/
def depositsOutline (path contract : String) : FileOutline :=
  { FileOutline.empty path with
    contracts :=
      [sampleContract "Vault" path [] [],
       { sampleContract contract path [sampleStruct "Pool" contract path] [] with
         stateVariables :=
           [{ name := "total"
              typeName := "uint"
              visibility := "default"
              source := "uint total;"
              location := ⟨⟨3, 2⟩, ⟨3, 13⟩⟩
              path := path
              contract := contract }] }] }

/-- The workspace of two such files. -/
def depositsWorkspace : Workspace :=
  .ofFiles [depositsOutline "a.sol" "Bank", depositsOutline "b.sol" "Vault"] []

/-- A hint at `Vault` leads to the second file, from the first file too, and a hint at a contract
that is missing changes nothing.
-/
theorem searches_take_first_and_follow_hints_deposits
    : ("Vault" ≠ "" ∧ '.' ∉ "Vault".toList ∧ "Lender" ≠ "" ∧ '.' ∉ "Lender".toList)
      ∧ (some "a.sol" ≠ some "" ∧ '.' ∉ "Pool".toList)
      ∧ (∃ stored,
          depositsWorkspace.resolveVariable "total" (some "Vault") (some "a.sol") = some stored
          ∧ depositsWorkspace.DeclaresVariableIn "Vault" stored)
      ∧ (∃ definition,
          (depositsWorkspace.lookup ⟨.type, "Pool", some "Vault"⟩).definitions
            = [.type definition]
          ∧ depositsWorkspace.DeclaresIn "Vault" definition)
      ∧ depositsWorkspace.lookup ⟨.type, "Pool", some "Lender"⟩
        = depositsWorkspace.lookup ⟨.type, "Pool", none⟩ := by
  have vault : "Vault" ≠ "" ∧ '.' ∉ "Vault".toList := by decide
  have lender : "Lender" ≠ "" ∧ '.' ∉ "Lender".toList := by decide
  have named : some "a.sol" ≠ some "" := by decide
  have bare : '.' ∉ "Pool".toList := by decide
  refine ⟨⟨vault.1, vault.2, lender⟩, ⟨named, bare⟩, ?_, ?_, ?_⟩
  · obtain ⟨-, -, -, hints⟩ := searches_take_first_and_follow_hints depositsWorkspace "total"
    have declared : ∃ stored,
        depositsWorkspace.DeclaresVariableIn "Vault" stored ∧ stored.name = "total" :=
      ⟨_, ⟨_, .tail _ (.tail _ (.tail _ (.head _))), rfl, .head _⟩, rfl⟩
    obtain ⟨stored, ⟨inside, -⟩, found⟩ :=
      (((hints "Vault" vault.1 vault.2).1 (some "a.sol")).2 named).inside declared
    exact ⟨stored, found, inside⟩
  · obtain ⟨-, -, -, hints⟩ := searches_take_first_and_follow_hints depositsWorkspace "Pool"
    have declared : ∃ definition,
        depositsWorkspace.DeclaresIn "Vault" definition ∧ definition.name = "Pool" :=
      ⟨.struct (sampleStruct "Pool" "Vault" "b.sol"), by decide, rfl⟩
    obtain ⟨definition, ⟨inside, -⟩, -, shown⟩ :=
      ((hints "Vault" vault.1 vault.2).2 bare).inside declared
    exact ⟨definition, shown, inside⟩
  · obtain ⟨-, -, -, hints⟩ := searches_take_first_and_follow_hints depositsWorkspace "Pool"
    refine ((hints "Lender" lender.1 lender.2).2 bare).outside ?_
    rintro ⟨definition, ⟨file, indexed, declared, listed, called, -⟩, -⟩
    have absent
        : ∀ file ∈ depositsWorkspace.files.items, ∀ declared ∈ file.contracts,
            declared.name ≠ "Lender" := by
      decide
    exact absent file indexed declared listed called

end Workspace

end SolidityAtlas
