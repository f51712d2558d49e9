import SolidityAtlas.Proofs.Resolution.NameSearch

/-! The types that files define, listed in the order in which they are searched: contract by
contract and then at file level, structs before enums. A bare name stands for the first definition
of the name in this list, and every answer of a file is on it. The name that an answer is shown
under asks for this answer again.
-/

namespace SolidityAtlas

open Outcome

variable {workspace : Workspace} {settings : Settings} {function : FunctionDecl}
  {current : Option String} {file : FileOutline} {files : List FileOutline} {query : TypeQuery}
  {name shown : String} {structs : List StructDecl} {enums : List EnumDecl}
  {reference : TypeReference} {definition : TypeDefinition}

/-- The definitions among structs and enums. -/
def typesAmong (structs : List StructDecl) (enums : List EnumDecl) : List TypeDefinition :=
  structs.map .struct ++ enums.map .enum

/-- The types that a contract defines. -/
def ContractDecl.types (contract : ContractDecl) : List TypeDefinition :=
  typesAmong contract.structs contract.enums

/-- The types that a file defines. -/
def FileOutline.types (file : FileOutline) : List TypeDefinition :=
  file.contracts.flatMap (·.types) ++ typesAmong file.structs file.enums

/-- The types that the files of a workspace define. -/
def Workspace.types (workspace : Workspace) : List TypeDefinition :=
  workspace.files.items.flatMap (·.types)

/-- A reference to a definition. -/
def TypeReference.toDefinition (shown : String) (definition : TypeDefinition) : TypeReference :=
  { name := shown, kind := definition.kind, definition := some definition }

-----------------------------------------------------------------------------------------
-- Answers
-----------------------------------------------------------------------------------------

/-- The type of a name among structs and enums is the first definition of the name. -/
theorem typeAmong_eq
    : typeAmong shown name structs enums
      = ((typesAmong structs enums).find? fun definition => definition.name = name).map
          (.toDefinition shown) := by
  simp only [typeAmong, typesAmong, List.find?_append, List.find?_map, Option.map_or,
    Option.map_map]
  rfl

/-- A bare name stands for the first definition of the name in a file. -/
theorem findType_bare
    : file.findType ⟨none, name⟩
      = (file.types.find? fun definition => definition.name = name).map (.toDefinition name) := by
  rw [FileOutline.findType, FileOutline.types, List.find?_append, List.find?_flatMap,
    Option.map_or, List.map_findSome?]
  simp only [typeAmong_eq, Function.comp_def, ContractDecl.types]

/-- What a file answers is one of its definitions, of the name that is asked for. -/
theorem exists_of_findType (found : file.findType query = some reference)
    : ∃ definition ∈ file.types,
        definition.name = query.name ∧ reference = .toDefinition reference.name definition := by
  obtain ⟨structs, enums, shown, answer, listed⟩
      : ∃ structs enums shown,
          typeAmong shown query.name structs enums = some reference
          ∧ typesAmong structs enums ⊆ file.types := by
    rw [FileOutline.findType] at found
    cases asked : query.contract with
    | some qualifier =>
        simp only [asked] at found
        obtain ⟨contract, member, answer⟩ := List.exists_of_findSome?_eq_some found
        refine ⟨_, _, _, answer, ?_⟩
        intro definition known
        have declared : contract ∈ file.contracts := (List.mem_filter.mp member).1
        exact List.mem_append_left _ (List.mem_flatMap.mpr ⟨contract, declared, known⟩)
    | none =>
        simp only [asked, Option.or_eq_some_iff] at found
        rcases found with inContracts | ⟨-, answer⟩
        · obtain ⟨contract, declared, answer⟩ := List.exists_of_findSome?_eq_some inContracts
          refine ⟨_, _, _, answer, ?_⟩
          intro definition known
          exact List.mem_append_left _ (List.mem_flatMap.mpr ⟨contract, declared, known⟩)
        · exact ⟨_, _, _, answer, List.subset_append_right _ _⟩
  rw [typeAmong_eq] at answer
  obtain ⟨definition, first, rfl⟩ := Option.map_eq_some_iff.mp answer
  refine ⟨definition, listed (List.mem_of_find?_eq_some first), ?_, rfl⟩
  simpa using List.find?_some first

/-- A type that is found for a name shows the definition of a file that has the local name. -/
theorem exists_of_resolveTypeIn (found : resolveTypeIn files name = some reference)
    : ∃ file ∈ files, ∃ definition ∈ file.types,
        definition.name = Text.unqualified name ∧ reference.definition = some definition := by
  obtain ⟨file, listed, answer⟩ := List.exists_of_findSome?_eq_some found
  obtain ⟨definition, defined, named, shows⟩ := exists_of_findType answer
  refine ⟨file, listed, definition, defined, named, ?_⟩
  rw [shows]
  rfl

-----------------------------------------------------------------------------------------
-- Names of answers
-----------------------------------------------------------------------------------------

/-- A name without dots is asked for in all contracts and at file level. -/
theorem TypeQuery.ofName_of_not_mem (absent : '.' ∉ name.toList)
    : TypeQuery.ofName name = ⟨none, name⟩ := by
  rw [ofName, Text.qualifierAndName_of_not_mem absent]
  rfl

/-- A name behind a qualifier is asked for in the contracts of this name. -/
theorem TypeQuery.ofName_append {qualifier : String} (given : qualifier ≠ "")
    (plain : '.' ∉ qualifier.toList) (absent : '.' ∉ name.toList)
    : TypeQuery.ofName (qualifier ++ "." ++ name) = ⟨some qualifier, name⟩ := by
  rw [ofName, Text.qualifierAndName_append plain absent]
  simp [Option.filter, given]

/-- The name that an answer is shown under asks for the same as the name it answers. -/
theorem ofName_shown (found : file.findType (.ofName name) = some reference)
    : TypeQuery.ofName reference.name = .ofName name := by
  have bare : '.' ∉ (TypeQuery.ofName name).name.toList := Text.dot_not_mem_unqualified name
  rw [FileOutline.findType] at found
  cases asked : (TypeQuery.ofName name).contract with
  | some qualifier =>
      simp only [asked] at found
      obtain ⟨contract, member, answer⟩ := List.exists_of_findSome?_eq_some found
      have called : contract.name = qualifier := by simpa using (List.mem_filter.mp member).2
      obtain ⟨split, given⟩ := Option.filter_eq_some_iff.mp asked
      rw [typeAmong_eq] at answer
      obtain ⟨definition, -, rfl⟩ := Option.map_eq_some_iff.mp answer
      have plain := Text.dot_not_mem_qualifier split
      rw [TypeReference.toDefinition, called,
        TypeQuery.ofName_append (by simpa using given) plain bare, ← asked]
  | none =>
      simp only [asked, Option.or_eq_some_iff] at found
      have shown : reference.name = (TypeQuery.ofName name).name := by
        rcases found with inContracts | ⟨-, answer⟩
        · obtain ⟨contract, -, answer⟩ := List.exists_of_findSome?_eq_some inContracts
          rw [typeAmong_eq] at answer
          obtain ⟨definition, -, rfl⟩ := Option.map_eq_some_iff.mp answer
          rfl
        · rw [typeAmong_eq] at answer
          obtain ⟨definition, -, rfl⟩ := Option.map_eq_some_iff.mp answer
          rfl
      rw [shown, TypeQuery.ofName_of_not_mem bare, ← asked]

/-- A type that is found among files is found again by the name that it is shown under. -/
theorem resolveTypeIn_shown (found : resolveTypeIn files name = some reference)
    : resolveTypeIn files reference.name = some reference := by
  obtain ⟨file, -, inFile⟩ := List.exists_of_findSome?_eq_some found
  rw [resolveTypeIn, ofName_shown inFile]
  exact found

/-- The types of a function are what the names stand for that they are shown under. -/
theorem Workspace.resolveTypeIn_of_mem_typesOf {types : List TypeReference}
    (done : workspace.typesOf settings function current = .ok types)
    (member : reference ∈ types)
    : resolveTypeIn (workspace.filesFrom current) reference.name = some reference := by
  rw [typesOf, bind_eq_ok_iff] at done
  obtain ⟨names, -, resolved⟩ := done
  obtain rfl := pure_eq_ok_iff.mp resolved
  obtain ⟨name, -, found⟩ := List.mem_filterMap.mp member
  exact resolveTypeIn_shown found

end SolidityAtlas
