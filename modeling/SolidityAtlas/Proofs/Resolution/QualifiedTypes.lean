import SolidityAtlas.Proofs.Resolution.FirstTypes
import SolidityAtlas.Proofs.Workspace.FileChanges

/-! Types that a function only mentions behind the name of a contract. A qualifier in the type of a
parameter is kept, so that the type is searched for in contracts of this name; a name in the source
is captured without what stands in front of it, so that the first type of the name is taken
wherever it is defined.
-/

namespace SolidityAtlas

open Outcome Text Vocabulary

variable {workspace : Workspace} {settings : Settings} {function : FunctionDecl}
  {current : Option String} {name qualifier : String} {bound : Bound}

-----------------------------------------------------------------------------------------
-- Qualified names as candidates
-----------------------------------------------------------------------------------------

/-- A bound that is above a count is above smaller counts. -/
theorem Bound.exceeds_of_le {count more : Int} (less : count ≤ more)
    (above : bound.exceeds more = true)
    : bound.exceeds count = true := by
  cases bound with
  | int value =>
      simp only [exceeds, decide_eq_true_eq] at above ⊢
      omega
  | double value =>
      cases value with
      | finite negative size =>
          simp only [exceeds, Double.greaterThanInt, decide_eq_true_eq] at above ⊢
          have scaled := Int.mul_le_mul_of_nonneg_right less (Int.natCast_nonneg Double.one)
          exact Int.lt_of_le_of_lt scaled above
      | infinite negative => exact above
      | undefined => exact above

/-- A name may name a type if it is neither elementary nor reserved, long enough, and no name of an
interface where these are skipped.
-/
theorem isTypeCandidate_iff
    : isTypeCandidate settings name = .ok true
      ↔ (isElementary name = false ∧ name ∉ reservedNames)
        ∧ ∃ bound skip,
            settings.minTypeNameLength = .ok bound
            ∧ settings.skipInterfaceTypes = .ok skip
            ∧ bound.exceeds name.toList.length = false
            ∧ ¬ (skip = true ∧ isInterfaceName name = true) := by
  rw [isTypeCandidate]
  by_cases free : isElementary name = false ∧ name ∉ reservedNames
  · rw [if_neg (by simp [free.1, free.2]), bind_eq_ok_iff]
    constructor
    · rintro ⟨bound, known, passes⟩
      split at passes
      · cases passes
      · rename_i long
        obtain ⟨skip, skipKnown, same⟩ := bind_eq_ok_iff.mp passes
        refine ⟨free, bound, skip, known, skipKnown, by simpa using long, ?_⟩
        rintro ⟨skipped, interface⟩
        simp [skipped, interface, pure_eq_ok_iff] at same
    · rintro ⟨-, bound, skip, known, skipKnown, long, other⟩
      refine ⟨bound, known, ?_⟩
      rw [if_neg (by simp [long]), skipKnown]
      exact pure_eq_ok_iff.mpr (by simpa [or_iff_not_imp_left] using other)
  · rw [if_pos (by simpa [or_iff_not_imp_left] using free)]
    constructor
    · intro passes
      cases passes
    · rintro ⟨given, -⟩
      exact absurd given free

/-- A dot stands in none of the names that are excluded. -/
theorem free_of_dot (dot : '.' ∈ name.toList)
    : isElementary name = false ∧ name ∉ reservedNames := by
  constructor
  · have dotless : ∀ type ∈ builtinTypes, '.' ∉ type.toList := by decide +kernel
    refine Bool.eq_false_iff.mpr ?_
    intro elementary
    have member : String.ofList (name.toList.map asciiLower) ∈ builtinTypes := by
      simpa [isElementary] using elementary
    refine dotless _ member ?_
    rw [String.toList_ofList]
    exact List.mem_map.mpr ⟨'.', dot, rfl⟩
  · have dotless : ∀ reserved ∈ reservedNames, '.' ∉ reserved.toList := by decide +kernel
    exact fun member => dotless name member dot

/-- A qualified name is called like an interface if its qualifier is. -/
theorem isInterfaceName_append
    : isInterfaceName (qualifier ++ "." ++ name) = isInterfaceName qualifier := by
  have whole : (qualifier ++ "." ++ name).toList = qualifier.toList ++ '.' :: name.toList := by
    simp
  rw [isInterfaceName, isInterfaceName, whole]
  rcases qualifier.toList with _ | ⟨first, _ | ⟨second, rest⟩⟩
  · rfl
  · by_cases capital : first = 'I'
    · subst capital
      rfl
    · simp [capital]
  · by_cases capital : first = 'I'
    · subst capital
      rfl
    · simp [capital]

/-- Behind a qualifier a name that may name a type still may, unless the qualifier is called like an
interface and these are skipped.
-/
theorem isTypeCandidate_append (allowed : isTypeCandidate settings name = .ok true)
    : isTypeCandidate settings (qualifier ++ "." ++ name) = .ok true
      ↔ ¬ (settings.skipInterfaceTypes = .ok true ∧ isInterfaceName qualifier = true) := by
  obtain ⟨-, bound, skip, known, skipKnown, long, -⟩ := isTypeCandidate_iff.mp allowed
  have free : isElementary (qualifier ++ "." ++ name) = false
      ∧ qualifier ++ "." ++ name ∉ reservedNames :=
    free_of_dot (by simp)
  have stillLong : bound.exceeds (qualifier ++ "." ++ name).toList.length = false := by
    refine Bool.eq_false_iff.mpr fun short => ?_
    have shorter : bound.exceeds name.toList.length = true :=
      Bound.exceeds_of_le (by simp; omega) short
    rw [long] at shorter
    cases shorter
  rw [isTypeCandidate_iff, isInterfaceName_append, skipKnown]
  constructor
  · rintro ⟨-, -, skip, -, same, -, other⟩ ⟨skipped, interface⟩
    exact other ⟨Except.ok.inj (same.symm.trans skipped), interface⟩
  · intro other
    refine ⟨free, bound, skip, known, rfl, stillLong, ?_⟩
    rintro ⟨rfl, interface⟩
    exact other ⟨rfl, interface⟩

-----------------------------------------------------------------------------------------
-- The candidate of a local name
-----------------------------------------------------------------------------------------

/-- Whether the types of parameters and return values write a local name behind a qualifier only. -/
def FunctionDecl.QualifiesDeclared (function : FunctionDecl) (qualifier name : String) : Prop :=
  ∀ parameter ∈ function.parameters ++ function.returns,
    ∀ leaf ∈ leafNames parameter.typeName,
      unqualified leaf = name → leaf = qualifier ++ "." ++ name

instance : Decidable (function.QualifiesDeclared qualifier name) :=
  inferInstanceAs
    (Decidable
      (∀ parameter ∈ function.parameters ++ function.returns,
        ∀ leaf ∈ leafNames parameter.typeName,
          unqualified leaf = name → leaf = qualifier ++ "." ++ name))

/-- A function whose declared types write a name behind a qualifier only has the qualified name as a
candidate, if this one is declared and may name a type, or else the bare name, if its source
mentions it.
-/
theorem find?_candidateTypes {names : List String}
    (done : candidateTypes settings function = .ok names) (bare : '.' ∉ name.toList)
    (allowed : isTypeCandidate settings name = .ok true)
    (qualified : function.QualifiesDeclared qualifier name)
    : names.find? (fun candidate => unqualified candidate = name)
      = if qualifier ++ "." ++ name ∈ declaredTypeNames function
            ∧ isTypeCandidate settings (qualifier ++ "." ++ name) = .ok true then
          some (qualifier ++ "." ++ name)
        else if name ∈ mentionedTypeNames function.source.toList then some name
        else none := by
  have declared
      : ((declaredTypeNames function).filter fun candidate =>
            isTypeCandidate settings candidate = .ok true).find?
          (fun candidate => unqualified candidate = name)
        = if qualifier ++ "." ++ name ∈ declaredTypeNames function
              ∧ isTypeCandidate settings (qualifier ++ "." ++ name) = .ok true then
            some (qualifier ++ "." ++ name)
          else none := by
    rw [find?_of_unique (qualifier ++ "." ++ name)]
    · simp only [List.mem_filter, decide_eq_true_eq]
    · simpa using unqualified_append qualifier bare
    · intro candidate member same
      obtain ⟨-, parameter, listed, leaf⟩ :=
        mem_declaredTypeNames.mp (List.mem_filter.mp member).1
      exact qualified parameter listed candidate leaf (by simpa using same)
  have mentioned
      : ((mentionedTypeNames function.source.toList).filter fun candidate =>
            isTypeCandidate settings candidate = .ok true).find?
          (fun candidate => unqualified candidate = name)
        = if name ∈ mentionedTypeNames function.source.toList then some name else none := by
    rw [find?_of_unique name]
    · simp only [List.mem_filter, allowed, decide_true, and_true]
    · simpa using unqualified_of_not_mem bare
    · intro candidate member same
      have mention := mentions_of_mem_mentionedTypeNames (List.mem_filter.mp member).1
      rw [← of_decide_eq_true same, unqualified_of_mentions mention]
  rw [candidateTypes_eq done, find?_distinctBy, List.filter_append, List.find?_append, declared,
    mentioned]
  split <;> simp

-----------------------------------------------------------------------------------------
-- Types in their own contracts
-----------------------------------------------------------------------------------------

/-- A contract of a name in a workspace declares a type. -/
def Workspace.DeclaresIn (workspace : Workspace) (contract : String) (definition : TypeDefinition)
    : Prop :=
  ∃ file ∈ workspace.files.items, ∃ declared ∈ file.contracts,
    declared.name = contract ∧ definition ∈ declared.types

instance {definition : TypeDefinition} : Decidable (workspace.DeclaresIn qualifier definition) :=
  inferInstanceAs
    (Decidable
      (∃ file ∈ workspace.files.items, ∃ declared ∈ file.contracts,
        declared.name = qualifier ∧ definition ∈ declared.types))

/-- Just one of the references is shown under a local name, and it shows a definition that a
contract of a name declares.
-/
def Workspace.ShowsOnly (workspace : Workspace) (contract name : String)
    (references : List TypeReference)
    : Prop :=
  ∃ reference definition,
    references.filter (fun reference => unqualified reference.name = name) = [reference]
    ∧ reference.definition = some definition
    ∧ workspace.DeclaresIn contract definition

/-- What a name stands for is a definition that a contract of a name declares. -/
def Workspace.ResolvesTo (workspace : Workspace) (contract : String)
    (found : Option TypeReference)
    : Prop :=
  ∃ reference definition,
    found = some reference
    ∧ reference.definition = some definition
    ∧ workspace.DeclaresIn contract definition

/-- The types under a local name are only one if there is an answer for it. -/
theorem Workspace.showsOnly_iff {references : List TypeReference} {found : Option TypeReference}
    (called : references.filter (fun reference => unqualified reference.name = name) = found.toList)
    : workspace.ShowsOnly qualifier name references ↔ workspace.ResolvesTo qualifier found := by
  rw [ShowsOnly, ResolvesTo, called]
  refine exists_congr fun reference => exists_congr fun definition => and_congr_left fun _ => ?_
  cases found <;> simp

/-- A qualified name stands for a type of a contract that is called like its qualifier, if one of
them declares the name.
-/
theorem Workspace.resolvesTo_qualified (named : current ≠ some "") (given : qualifier ≠ "")
    (plain : '.' ∉ qualifier.toList) (bare : '.' ∉ name.toList)
    (indexed : ∃ file ∈ workspace.files.items, file.DefinesType ⟨some qualifier, name⟩)
    : workspace.ResolvesTo qualifier
        (resolveTypeIn (workspace.filesFrom current) (qualifier ++ "." ++ name)) := by
  have asked : TypeQuery.ofName (qualifier ++ "." ++ name) = ⟨some qualifier, name⟩ :=
    TypeQuery.ofName_append given plain bare
  obtain ⟨file, member, defines⟩ := indexed
  obtain ⟨reference, found⟩ : ∃ reference,
      resolveTypeIn (workspace.filesFrom current) (qualifier ++ "." ++ name) = some reference := by
    refine Option.isSome_iff_exists.mp (isSome_resolveTypeIn_iff.mpr ?_)
    exact ⟨file, mem_filesFrom named member, asked ▸ defines⟩
  obtain ⟨definition, first, rfl⟩ := resolveTypeIn_eq_some_iff.mp found
  refine ⟨_, definition, found, rfl, ?_⟩
  have listed := first.mem
  rw [asked] at listed
  obtain ⟨searched, inFiles, inFile⟩ := List.mem_flatMap.mp listed
  obtain ⟨contract, kept, inContract⟩ := List.mem_flatMap.mp inFile
  obtain ⟨declared, called⟩ := List.mem_filter.mp kept
  exact ⟨searched, mem_of_mem_filesFrom inFiles, contract, declared, of_decide_eq_true called,
    inContract⟩

/-- A bare name stands for a type of a contract of some name if the first type of the name does. -/
theorem Workspace.resolvesTo_bare_iff (bare : '.' ∉ name.toList)
    : workspace.ResolvesTo qualifier (resolveTypeIn (workspace.filesFrom current) name)
      ↔ ∃ definition,
          FirstWith (fun definition => definition.name = name)
            ((workspace.filesFrom current).flatMap (·.types)) definition
          ∧ workspace.DeclaresIn qualifier definition := by
  simp only [ResolvesTo, resolveTypeIn_eq_some_iff, TypeReference.isFirst_bare_iff bare]
  constructor
  · rintro ⟨reference, definition, ⟨first, found, rfl⟩, shown, declares⟩
    obtain rfl := Option.some.inj shown
    exact ⟨first, found, declares⟩
  · rintro ⟨definition, found, declares⟩
    exact ⟨_, definition, ⟨definition, found, rfl⟩, rfl, declares⟩

/-- A function may write the name of a type in its declared types behind a qualifier only, and a
contract that is called like the qualifier may declare the type. Then just one of the types of the
function is shown under the name and comes from such a contract exactly if the qualified name is
declared and its qualifier not skipped as that of an interface, or if the source mentions the name
and the first type of this name of all comes from such a contract.
-/
theorem Workspace.typesOf_qualified_iff (named : current ≠ some "") (given : qualifier ≠ "")
    (plain : '.' ∉ qualifier.toList) (bare : '.' ∉ name.toList)
    (allowed : isTypeCandidate settings name = .ok true)
    (qualified : function.QualifiesDeclared qualifier name)
    (indexed : ∃ file ∈ workspace.files.items, file.DefinesType ⟨some qualifier, name⟩)
    : ∃ references,
        workspace.typesOf settings function current = .ok references
        ∧ (workspace.ShowsOnly qualifier name references
          ↔ (function.DeclaresTypeName (qualifier ++ "." ++ name)
              ∧ ¬ (settings.skipInterfaceTypes = .ok true ∧ isInterfaceName qualifier = true))
            ∨ (name ∈ mentionedTypeNames function.source.toList
              ∧ ∃ definition,
                  FirstWith (fun definition => definition.name = name)
                    ((workspace.filesFrom current).flatMap (·.types)) definition
                  ∧ workspace.DeclaresIn qualifier definition)) := by
  obtain ⟨-, bound, skip, known, skipKnown, -⟩ := isTypeCandidate_iff.mp allowed
  obtain ⟨names, listed⟩ := exists_candidateTypes ⟨bound, known⟩ ⟨skip, skipKnown⟩ function
  have called
      : (names.filterMap (resolveTypeIn (workspace.filesFrom current))).filter
          (fun reference => unqualified reference.name = name)
        = ((names.find? fun candidate => unqualified candidate = name).bind
            (resolveTypeIn (workspace.filesFrom current))).toList := by
    refine filter_filterMap ?_ (nodup_candidateTypes listed) name
    intro candidate reference found
    obtain ⟨definition, shows⟩ := shows_of_resolveTypeIn found
    exact shows.shown
  refine ⟨_, typesOf_eq listed, ?_⟩
  rw [showsOnly_iff called, find?_candidateTypes listed bare allowed qualified,
    ← mem_declaredTypeNames, ← isTypeCandidate_append allowed]
  split
  · rename_i own
    exact iff_of_true (resolvesTo_qualified named given plain bare indexed) (.inl own)
  · rename_i foreign
    rw [or_iff_right foreign]
    split
    · rename_i mentioned
      rw [and_iff_right mentioned]
      exact resolvesTo_bare_iff bare
    · rename_i absent
      refine iff_of_false ?_ fun mentioned => absent mentioned.1
      rintro ⟨reference, definition, found, -⟩
      cases found

/-- Two contracts that declare a type of one name. -/
def vaultWorkspace : Workspace :=
  contractsWorkspace
    [structContract .contract "Bank" ["Pool"], structContract .contract "Vault" ["Pool"]]

/-- A qualified type of a parameter comes from its own contract, which is not the first one. -/
theorem typesOf_qualified_iff_parameter
    : let settings := SettingTables.default.settings
      (some "vault.sol" ≠ some "" ∧ "Vault" ≠ "" ∧ '.' ∉ "Vault".toList
        ∧ '.' ∉ "Pool".toList)
      ∧ isTypeCandidate settings "Pool" = .ok true
      ∧ swapFunction.QualifiesDeclared "Vault" "Pool"
      ∧ (∃ file ∈ vaultWorkspace.files.items, file.DefinesType ⟨some "Vault", "Pool"⟩)
      ∧ ∃ references,
          vaultWorkspace.typesOf settings swapFunction (some "vault.sol") = .ok references
          ∧ vaultWorkspace.ShowsOnly "Vault" "Pool" references := by
  intro settings
  have names : some "vault.sol" ≠ some "" ∧ "Vault" ≠ "" ∧ '.' ∉ "Vault".toList
      ∧ '.' ∉ "Pool".toList := by
    decide
  have allowed : isTypeCandidate settings "Pool" = .ok true := rfl
  have qualified : swapFunction.QualifiesDeclared "Vault" "Pool" := by decide
  have indexed
      : ∃ file ∈ vaultWorkspace.files.items, file.DefinesType ⟨some "Vault", "Pool"⟩ := by
    decide
  refine ⟨names, allowed, qualified, indexed, ?_⟩
  obtain ⟨references, done, shown⟩ :=
    Workspace.typesOf_qualified_iff names.1 names.2.1 names.2.2.1 names.2.2.2 allowed qualified
      indexed
  refine ⟨references, done, shown.mpr (.inl ⟨mem_declaredTypeNames.mp (by decide), ?_⟩)⟩
  decide

-----------------------------------------------------------------------------------------
-- Types that the source alone mentions
-----------------------------------------------------------------------------------------

/-- A text has a word at an offset. -/
def IsWordAt (text word : List Char) (offset : Nat) : Prop :=
  word <+: text.drop offset
    ∧ IsWordBetween (text.take offset) word (text.drop (offset + word.length))

/-- Wherever a text has a name as a word, a dot stands in front of it and a qualifier in front of
this one.
-/
def QualifiesMentions (text qualifier name : List Char) : Prop :=
  ∀ offset < text.length,
    IsWordAt text name offset
    → (text.take offset).getLast? = some '.'
      ∧ qualifier.length < offset
      ∧ IsWordAt text qualifier (offset - (qualifier.length + 1))

instance {text word : List Char} {offset : Nat} : Decidable (IsWordAt text word offset) :=
  inferInstanceAs
    (Decidable
      (word <+: text.drop offset
        ∧ IsWordBetween (text.take offset) word (text.drop (offset + word.length))))

instance {text qualifier name : List Char} : Decidable (QualifiesMentions text qualifier name) :=
  inferInstanceAs
    (Decidable
      (∀ offset < text.length,
        IsWordAt text name offset
        → (text.take offset).getLast? = some '.'
          ∧ qualifier.length < offset
          ∧ IsWordAt text qualifier (offset - (qualifier.length + 1))))

/-- A function that has a variable of a qualified type, and parameters of no such type. -/
def localFunction : FunctionDecl :=
  typedFunction [] "function swap() \x7b Vault.Pool memory p; \x7d"

/-- A type that only the source mentions, and only behind its contract, is taken from another
contract.
-/
theorem typesOf_not_qualified
    : ∃ (workspace : Workspace) (function : FunctionDecl) (references : List TypeReference),
        isTypeCandidate SettingTables.default.settings "Pool" = .ok true
        ∧ function.QualifiesDeclared "Vault" "Pool"
        ∧ Mentions function.source.toList "Pool"
        ∧ QualifiesMentions function.source.toList "Vault".toList "Pool".toList
        ∧ (∃ file ∈ workspace.files.items, file.DefinesType ⟨some "Vault", "Pool"⟩)
        ∧ workspace.typesOf SettingTables.default.settings function (some "vault.sol")
          = .ok references
        ∧ ¬ workspace.ShowsOnly "Vault" "Pool" references := by
  have done
      : vaultWorkspace.typesOf SettingTables.default.settings localFunction (some "vault.sol")
        = .ok [.toDefinition "Pool" (.struct (contractStruct "Bank" "Pool"))] :=
    rfl
  refine ⟨vaultWorkspace, localFunction, _, rfl, by decide, ?_, by decide +kernel, by decide, done,
    ?_⟩
  · exact mentions_of_mem_mentionedTypeNames (by decide)
  · rintro ⟨reference, definition, only, shown, declares⟩
    obtain rfl := List.singleton_inj.mp only
    obtain rfl := Option.some.inj shown
    exact absurd declares (by decide)

end SolidityAtlas
