import SolidityAtlas.Analysis.Basic
import SolidityAtlas.Proofs.KeyedList
import SolidityAtlas.Proofs.Outcome
import SolidityAtlas.Proofs.Text.Pieces

/-! What the search for a name finds. A file answers a query for a type exactly when it defines a
struct or an enum of the name, in the contract that the query asks for or anywhere. The answer shows
a definition under its local name, and candidates differ in their local names, so the types of a
function do too. The target of a call depends on nothing but the name that is called, and the state
variables of a function differ in their names.
-/

namespace SolidityAtlas

open Outcome

-----------------------------------------------------------------------------------------
-- Types
-----------------------------------------------------------------------------------------

variable {workspace : Workspace} {settings : Settings} {function : FunctionDecl}
  {current : Option String} {file : FileOutline} {files : List FileOutline} {query : TypeQuery}
  {name shown : String} {structs : List StructDecl} {enums : List EnumDecl}
  {reference : TypeReference}

/-- Whether a file defines a type that answers a query: in a contract, of the asked name if the
query is qualified, or at file level if it is not.
-/
def FileOutline.DefinesType (file : FileOutline) (query : TypeQuery) : Prop :=
  (∃ contract ∈ file.contracts,
    (∀ qualifier, query.contract = some qualifier → contract.name = qualifier)
    ∧ query.name ∈ contract.structs.map (·.name) ++ contract.enums.map (·.name))
  ∨ query.contract = none ∧ query.name ∈ file.structs.map (·.name) ++ file.enums.map (·.name)

/-- Whether a file defines a function of a name. -/
def FileOutline.DefinesFunction (file : FileOutline) (name : String) : Prop :=
  name ∈ file.allFunctions.map (·.name)

/-- What a definition defines. -/
def TypeDefinition.kind : TypeDefinition → ReferenceKind
  | .struct _ => .struct
  | .enum _ => .enum

/-- A reference shows a definition of a name, under this name or behind a qualifier. -/
structure TypeReference.Shows (reference : TypeReference) (name : String)
    (definition : TypeDefinition)
    : Prop where
  defined : reference.definition = some definition
  kind : reference.kind = definition.kind
  named : definition.name = name
  shown : Text.unqualified reference.name = name

/-- There is a type among structs and enums when one of them has the name. -/
theorem isSome_typeAmong_iff
    : (typeAmong shown name structs enums).isSome
      ↔ name ∈ structs.map (·.name) ++ enums.map (·.name) := by
  simp [typeAmong]

/-- A file answers the queries that it defines a type for. -/
theorem isSome_findType_iff : (file.findType query).isSome ↔ file.DefinesType query := by
  rw [FileOutline.findType, FileOutline.DefinesType]
  cases query.contract with
  | some qualifier =>
      simp only [List.isSome_findSome?, List.any_eq_true, List.mem_filter, decide_eq_true_eq,
        isSome_typeAmong_iff, and_assoc, Option.some.injEq, forall_eq', reduceCtorEq, false_and,
        or_false]
  | none =>
      simp only [Option.isSome_or, Bool.or_eq_true, List.isSome_findSome?, List.any_eq_true,
        isSome_typeAmong_iff, reduceCtorEq, false_implies, implies_true, true_and]

instance : Decidable (file.DefinesType query) :=
  decidable_of_iff _ isSome_findType_iff

/-- A type among structs and enums is shown as asked for and defined under the name. -/
theorem shows_of_typeAmong (last : Text.unqualified shown = name)
    (found : typeAmong shown name structs enums = some reference)
    : ∃ definition, reference.Shows name definition := by
  rw [typeAmong, Option.or_eq_some_iff] at found
  rcases found with isStruct | ⟨-, isEnum⟩
  · obtain ⟨struct, listed, rfl⟩ := Option.map_eq_some_iff.mp isStruct
    have named : struct.name = name := by simpa using List.find?_some listed
    exact ⟨.struct struct, rfl, rfl, named, last⟩
  · obtain ⟨enum, listed, rfl⟩ := Option.map_eq_some_iff.mp isEnum
    have named : enum.name = name := by simpa using List.find?_some listed
    exact ⟨.enum enum, rfl, rfl, named, last⟩

/-- What a file answers shows a definition of the name, if the name has no dot. -/
theorem shows_of_findType (bare : '.' ∉ query.name.toList)
    (found : file.findType query = some reference)
    : ∃ definition, reference.Shows query.name definition := by
  have plain : Text.unqualified query.name = query.name := Text.unqualified_of_not_mem bare
  rw [FileOutline.findType] at found
  cases asked : query.contract with
  | some qualifier =>
      simp only [asked] at found
      obtain ⟨contract, -, inContract⟩ := List.exists_of_findSome?_eq_some found
      exact shows_of_typeAmong (Text.unqualified_append contract.name bare) inContract
  | none =>
      simp only [asked, Option.or_eq_some_iff] at found
      rcases found with inContracts | ⟨-, inFile⟩
      · obtain ⟨contract, -, inContract⟩ := List.exists_of_findSome?_eq_some inContracts
        exact shows_of_typeAmong plain inContract
      · exact shows_of_typeAmong plain inFile

/-- A query looks for the local name. -/
theorem TypeQuery.name_ofName : (TypeQuery.ofName name).name = Text.unqualified name := by
  rfl

/-- A type that is found for a name shows a definition of the local name. -/
theorem shows_of_resolveTypeIn (found : resolveTypeIn files name = some reference)
    : ∃ definition, reference.Shows (Text.unqualified name) definition := by
  obtain ⟨file, -, inFile⟩ := List.exists_of_findSome?_eq_some found
  rw [← TypeQuery.name_ofName]
  refine shows_of_findType ?_ inFile
  rw [TypeQuery.name_ofName]
  exact Text.dot_not_mem_unqualified name

/-- Candidates for types differ in their local names. -/
theorem nodup_candidateTypes {names : List String}
    (done : candidateTypes settings function = .ok names)
    : (names.map Text.unqualified).Nodup := by
  rw [candidateTypes, bind_eq_ok_iff] at done
  obtain ⟨kept, -, listed⟩ := done
  rw [← pure_eq_ok_iff.mp listed]
  exact nodup_map_distinctBy Text.unqualified kept

/-- The types of a function show definitions, each under another local name. -/
theorem Workspace.typesOf_spec {types : List TypeReference}
    (done : workspace.typesOf settings function current = .ok types)
    : (∀ reference ∈ types,
        ∃ definition, reference.Shows (Text.unqualified reference.name) definition)
      ∧ (types.map fun reference => Text.unqualified reference.name).Nodup := by
  rw [typesOf, bind_eq_ok_iff] at done
  obtain ⟨names, listed, resolved⟩ := done
  obtain rfl := pure_eq_ok_iff.mp resolved
  constructor
  · intro reference member
    obtain ⟨name, -, found⟩ := List.mem_filterMap.mp member
    obtain ⟨definition, shows⟩ := shows_of_resolveTypeIn found
    exact ⟨definition, shows.shown ▸ shows⟩
  · refine nodup_map_filterMap ?_ (nodup_candidateTypes listed)
    intro name reference found
    obtain ⟨definition, shows⟩ := shows_of_resolveTypeIn found
    exact shows.shown

-----------------------------------------------------------------------------------------
-- Functions and state variables
-----------------------------------------------------------------------------------------

/-- A file has a function for the names that it defines functions of. -/
theorem isSome_findFunction_iff
    : (file.allFunctions.find? fun function => function.name = name).isSome
      ↔ file.DefinesFunction name := by
  simp [FileOutline.DefinesFunction]

instance : Decidable (file.DefinesFunction name) :=
  decidable_of_iff _ isSome_findFunction_iff

/-- A function that is found for a name has this name. -/
theorem name_of_resolveFunctionIn {target : FunctionDecl}
    (found : resolveFunctionIn files name = some target)
    : target.name = name := by
  obtain ⟨file, -, inFile⟩ := List.exists_of_findSome?_eq_some found
  simpa using List.find?_some inFile

/-- The state variables of a name are those of the files, file by file. -/
theorem Workspace.variablesNamed_eq
    : workspace.variablesNamed name
      = workspace.files.items.flatMap fun file =>
          file.stateVariables.filter fun stored => stored.name = name := by
  simp only [variablesNamed, contracts, FileOutline.stateVariables, List.filter_flatMap,
    List.flatMap_assoc]

/-- Without a hint the state variable of a name is the first one among the files. -/
theorem Workspace.resolveVariable_eq_findSome?
    : workspace.resolveVariable name none current
      = (workspace.filesFrom current).findSome? fun file =>
          file.stateVariables.find? fun stored => stored.name = name := by
  simp only [resolveVariable, Option.filter_none, Option.none_or, variableAmong,
    Pattern.findSome_flatMap, FileOutline.stateVariables, List.find?_flatMap]

/-- Every call of a function has a target, the function that its name is found for. -/
theorem Workspace.callsOf_spec {calls : List CallSite}
    (done : workspace.callsOf settings function current = .ok calls)
    : ∀ call ∈ calls,
        ∃ target, call.target = some target
          ∧ resolveFunctionIn (workspace.filesFrom current) call.name = some target := by
  rw [callsOf, bind_eq_ok_iff] at done
  obtain ⟨written, -, resolved⟩ := done
  obtain rfl := pure_eq_ok_iff.mp resolved
  intro call member
  obtain ⟨site, -, found⟩ := List.mem_filterMap.mp member
  obtain ⟨target, known, rfl⟩ := Option.map_eq_some_iff.mp found
  exact ⟨target, rfl, known⟩

/-- The state variables that a function mentions differ in their names. -/
theorem Workspace.nodup_variablesOf
    : ((workspace.variablesOf function).map (·.name)).Nodup := by
  rw [variablesOf]
  split
  · rename_i contract _
    have names : ((mentionedVariables function contract).map id).Nodup :=
      nodup_map_distinctBy id _
    refine nodup_map_filterMap ?_ names
    intro name stored found
    simpa using List.find?_some found
  · exact List.nodup_nil

end SolidityAtlas
