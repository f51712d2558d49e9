import SolidityAtlas.Resolution.TypeCandidates
import SolidityAtlas.Proofs.KeyedList
import SolidityAtlas.Proofs.Outcome
import SolidityAtlas.Proofs.Pattern.Words
import SolidityAtlas.Proofs.Text.Pieces

/-! Where the candidates for types come from. Every name that a shape captures in the source of a
function is a capitalised word there, and every capitalised word that is no constant is captured.
Together with the names in the types of parameters they are the candidates: the first of each local
name that passes the exclusion tables.
-/

namespace SolidityAtlas

open Outcome Pattern Text Vocabulary

variable {settings : Settings} {function : FunctionDecl} {text : List Char} {name : String}
  {names : List String} {patterns : List Pattern}

-----------------------------------------------------------------------------------------
-- Names in source text
-----------------------------------------------------------------------------------------

/-- What a shape captures between a word edge and something that ends words is a word. -/
theorem mentions_of_mem_capturedNames (ends : EndsWord (sequence patterns))
    (last : 1 ∉ (sequence patterns).captures)
    (member
      : name ∈ capturedNames (sequence (.wordEdge :: .capture 1 capitalName :: patterns)) text)
    : Mentions text name := by
  obtain ⟨found, scanned, rfl⟩ := List.mem_map.mp member
  obtain ⟨stop, way, same⟩ := exists_mem_ways_of_matchAt (matchAt_of_mem_findAll scanned)
  obtain ⟨captured, known, mention⟩ :=
    exists_mention_of_wordEdge ends last (Cursor.standsBehind_atOffset text found.start) way
  have group : found.group 1 = captured.text := by
    rw [Match.group, Match.group?, congrArg Match.groups same, known]
    rfl
  rwa [group]

/-- Behind a sign of comparison and white space no word goes on. -/
theorem before_of_mem_ways_compare {here mid stop : Cursor}
    (sign : mid ∈ (literal "==").ways here) (blank : stop ∈ spaces.ways mid)
    : stop.before.any isWord = false
      ∧ ∃ passed, here.rest = passed ++ stop.rest ∧ stop = here.pass passed := by
  obtain ⟨ahead, rfl⟩ := eq_pass_of_mem_ways_literal sign
  obtain ⟨blanks, rest, split, all, rfl⟩ := Cursor.exists_of_mem_runs (List.mem_reverse.mp blank)
  rw [Cursor.rest_pass split]
  constructor
  · cases last : blanks.getLast? with
    | none =>
        obtain rfl := List.getLast?_eq_none_iff.mp last
        rw [Cursor.pass_nil]
        rfl
    | some c =>
        rw [Cursor.pass, last]
        exact isWord_of_isSpace (all c (List.mem_of_getLast? last))
  · exact ⟨"==".toList ++ blanks, by rw [ahead, split, List.append_assoc], Cursor.pass_append.symm⟩

/-- What is compared with a member of a name, and a name whose member is compared, are words. -/
theorem mentions_comparedName {found : Match} (scanned : found ∈ comparison.findAll text)
    : Mentions text (comparedName found) := by
  obtain ⟨stop, way, same⟩ := exists_mem_ways_of_matchAt (matchAt_of_mem_findAll scanned)
  have start := Cursor.standsBehind_atOffset text found.start
  have groups : found.groups = stop.groups := congrArg Match.groups same
  rcases List.mem_append.mp way with compared | member
  · obtain ⟨behindSign, sign, onward⟩ := mem_ways_sequence_cons.mp compared
    obtain ⟨here, blank, onward⟩ := mem_ways_sequence_cons.mp onward
    obtain ⟨outside, passed, ahead, rfl⟩ := before_of_mem_ways_compare sign blank
    obtain ⟨captured, known, mention⟩ :=
      exists_mention_of_capture (start.pass ahead) (fun _ => outside)
        (endsWord_char rfl).sequence_cons (by decide) onward
    have name : comparedName found = captured.text := by
      rw [comparedName, Match.group?, groups, known]
      rfl
    rwa [name]
  · obtain ⟨captured, known, mention⟩ :=
      exists_mention_of_wordEdge (endsWord_char rfl).sequence_cons (by decide) start member
    have first : stop.groups.lookup 1 = none := by
      rw [lookup_groups_of_mem_ways member (by decide)]
      rfl
    have name : comparedName found = captured.text := by
      rw [comparedName, Match.group, Match.group?, Match.group?, groups, known, first]
      rfl
    rwa [name]

/-- The names found in source text are words of it. -/
theorem mentions_of_mem_mentionedTypeNames (member : name ∈ mentionedTypeNames text)
    : Mentions text name := by
  rw [mentionedTypeNames] at member
  simp only [List.mem_append] at member
  rcases member with ((((located | declared) | called) | accessed) | compared) | word
  · exact mentions_of_mem_capturedNames endsWord_gap.sequence_cons (by decide) located
  · exact mentions_of_mem_capturedNames endsWord_gap.sequence_cons (by decide) declared
  · exact mentions_of_mem_capturedNames (endsWord_spaces_char rfl) (by decide) called
  · exact mentions_of_mem_capturedNames (endsWord_char rfl).sequence_cons (by decide) accessed
  · obtain ⟨found, scanned, rfl⟩ := List.mem_map.mp compared
    exact mentions_comparedName scanned
  · exact mentions_of_mem_capturedNames endsWord_wordEdge.sequence_cons (by decide)
      (List.mem_filter.mp word).1

/-- Words in capitals that do not start like an interface are constants, and no other words. -/
theorem isConstantName_eq_false_iff
    : isConstantName name = false
      ↔ (∃ c ∈ name.toList, c.isLower = true) ∨ name.toList.head? = some 'I' := by
  simp only [isConstantName, Bool.and_eq_false_iff, List.all_eq_false, decide_eq_false_iff_not,
    not_not]
  simp

/-- A capitalised word that is no constant is found in source text. -/
theorem mem_mentionedTypeNames (mention : Mentions text name)
    (other : isConstantName name = false)
    : name ∈ mentionedTypeNames text := by
  obtain ⟨front, rest, rfl, whole⟩ := mention.word
  have scanned : wordMatch front name.toList rest ∈ capitalWord.findAll _ :=
    (mem_findAll_word_iff startsNames_isUpper).mpr
      ⟨front, name.toList, rest, rfl, isCapitalName_iff.mp mention.capital, whole, rfl⟩
  have captured : (wordMatch front name.toList rest).group 1 = name := by
    rw [group_wordMatch, String.ofList_toList]
  refine List.mem_append_right _ (List.mem_filter.mpr ⟨?_, by simp [other]⟩)
  exact List.mem_map.mpr ⟨_, scanned, captured⟩

/-- A mentioned name has no dots, so it is its own local name. -/
theorem unqualified_of_mentions (mention : Mentions text name) : unqualified name = name := by
  refine unqualified_of_not_mem ?_
  intro member
  have inside := mention.capital.isWord '.' member
  cases inside

-----------------------------------------------------------------------------------------
-- Candidates
-----------------------------------------------------------------------------------------

/-- A capitalised name in the type of a parameter or of a return value. -/
def FunctionDecl.DeclaresTypeName (function : FunctionDecl) (name : String) : Prop :=
  isCapitalised name = true
    ∧ ∃ parameter ∈ function.parameters ++ function.returns, name ∈ leafNames parameter.typeName

/-- Names that settings let a function have as candidates for types: candidates differ in their
local names, each of them is declared or mentioned and may name a type, and every mentioned name
that may name a type and is not all capitals is among them by its local name, as is one that starts
with an I.
-/
structure FunctionDecl.HasCandidates (function : FunctionDecl) (settings : Settings)
    (names : List String)
    : Prop where
  distinct : (names.map unqualified).Nodup
  allowed : ∀ name ∈ names, isTypeCandidate settings name = .ok true
  sound
    : ∀ name ∈ names, function.DeclaresTypeName name ∨ Mentions function.source.toList name
  complete
    : ∀ name,
        Mentions function.source.toList name
        → isTypeCandidate settings name = .ok true
        → (∃ c ∈ name.toList, c.isLower = true) ∨ name.toList.head? = some 'I'
        → ∃ candidate ∈ names, unqualified candidate = name

theorem mem_declaredTypeNames : name ∈ declaredTypeNames function ↔ function.DeclaresTypeName name
    := by
  rw [declaredTypeNames, FunctionDecl.DeclaresTypeName, List.mem_filter, List.mem_flatMap, and_comm]

/-- Whether a name may be that of a type is known with settings that answer. -/
theorem exists_isTypeCandidate (bounded : Succeeds settings.minTypeNameLength)
    (skips : Succeeds settings.skipInterfaceTypes) (name : String)
    : ∃ answer, isTypeCandidate settings name = .ok answer := by
  obtain ⟨length, lengthKnown⟩ := bounded
  obtain ⟨skip, skipKnown⟩ := skips
  unfold isTypeCandidate
  split
  · exact ⟨_, rfl⟩
  · rw [lengthKnown, skipKnown]
    change ∃ answer,
      (if length.exceeds name.toList.length = true then pure false
        else pure (!(skip && Vocabulary.isInterfaceName name)) : Outcome Bool) = .ok answer
    split <;> exact ⟨_, rfl⟩

/-- The candidates of a function are known with settings that answer. -/
theorem exists_candidateTypes (bounded : Succeeds settings.minTypeNameLength)
    (skips : Succeeds settings.skipInterfaceTypes) (function : FunctionDecl)
    : ∃ names, candidateTypes settings function = .ok names := by
  obtain ⟨kept, found⟩ :=
    exists_filterM_eq_ok fun name (_ : name ∈ declaredTypeNames function
      ++ mentionedTypeNames function.source.toList) => exists_isTypeCandidate bounded skips name
  exact ⟨_, by rw [candidateTypes, found]; rfl⟩

/-- The candidates are the first of each local name among the names that may name types. -/
theorem candidateTypes_eq (done : candidateTypes settings function = .ok names)
    : names
      = distinctBy unqualified
          ((declaredTypeNames function ++ mentionedTypeNames function.source.toList).filter
            fun name => isTypeCandidate settings name = .ok true) := by
  rw [candidateTypes, bind_eq_ok_iff] at done
  obtain ⟨kept, filtered, listed⟩ := done
  rw [← pure_eq_ok_iff.mp listed, eq_filter_of_filterM filtered]

/-- The candidates of a function come from its declared types and its source, and none is missed. -/
theorem hasCandidates_of_candidateTypes (done : candidateTypes settings function = .ok names)
    : function.HasCandidates settings names := by
  have listed := candidateTypes_eq done
  have among {name : String} (member : name ∈ names)
      : name ∈ declaredTypeNames function ++ mentionedTypeNames function.source.toList
        ∧ isTypeCandidate settings name = .ok true := by
    rw [listed] at member
    simpa using List.mem_filter.mp (mem_of_mem_distinctBy member)
  exact
    { distinct := listed ▸ nodup_map_distinctBy unqualified _
      allowed := fun name member => (among member).2
      sound := by
        intro name member
        rcases List.mem_append.mp (among member).1 with declared | mentioned
        · exact .inl (mem_declaredTypeNames.mp declared)
        · exact .inr (mentions_of_mem_mentionedTypeNames mentioned)
      complete := by
        intro name mention passes form
        have mentioned := mem_mentionedTypeNames mention (isConstantName_eq_false_iff.mpr form)
        have kept : name ∈ (declaredTypeNames function
            ++ mentionedTypeNames function.source.toList).filter
              fun name => isTypeCandidate settings name = .ok true :=
          List.mem_filter.mpr ⟨List.mem_append_right _ mentioned, by simpa using passes⟩
        obtain ⟨candidate, member, same⟩
            : ∃ candidate ∈ names, unqualified candidate = unqualified name :=
          listed ▸ exists_mem_distinctBy kept
        exact ⟨candidate, member, same.trans (unqualified_of_mentions mention)⟩ }

end SolidityAtlas
