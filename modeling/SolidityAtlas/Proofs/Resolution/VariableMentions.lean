import SolidityAtlas.Analysis.View
import SolidityAtlas.Proofs.FirstWith
import SolidityAtlas.Proofs.KeyedList
import SolidityAtlas.Proofs.Pattern.Words
import SolidityAtlas.Proofs.Text.Mentions

/-! The state variables that a function mentions, and the lines that mention them. Names are found
by one scan of the whole source for identifiers, lines by a scan of each line for a given word. Both
find whole words, so the first line that mentions a name is the line of its first mention.
-/

namespace SolidityAtlas

open Pattern Text

variable {source : List Char} {declared : List String} {name : String} {offset : Nat}
  {found : Match}

-----------------------------------------------------------------------------------------
-- Mentions
-----------------------------------------------------------------------------------------

/-- Names are listed as a text mentions them: each name once, just the declared ones that are
identifiers and words of the text, in the order of their first places.
-/
structure MentionsInOrder (source : List Char) (declared names : List String) : Prop where
  distinct : names.Nodup
  listed
    : ∀ name,
        name ∈ names
        ↔ name ∈ declared ∧ IsName isIdentifierStart name.toList ∧ HasWord source name.toList
  ordered
    : names.Pairwise fun name later =>
        ∃ first second,
          FirstWordAt source name.toList first
          ∧ FirstWordAt source later.toList second
          ∧ first < second

/-- The matches of a scan for identifiers that are among given names. -/
def identifiersAmong (declared : List String) (source : List Char) : List Match :=
  (Vocabulary.identifier.findAll source).filter fun found => declared.contains (found.group 1)

/-- The matches come from left to right. -/
theorem pairwise_start_identifiersAmong (declared : List String) (source : List Char)
    : (identifiersAmong declared source).Pairwise fun found later => found.start < later.start :=
  (pairwise_start_findAll _ _).filter _

/-- Matched are the given names that are identifiers, at all the places where they are words. -/
theorem exists_mem_identifiersAmong_iff
    : (∃ found ∈ identifiersAmong declared source, found.group 1 = name ∧ found.start = offset)
      ↔ name ∈ declared
        ∧ IsName isIdentifierStart name.toList
        ∧ WordAt source name.toList offset := by
  constructor
  · rintro ⟨found, member, rfl, rfl⟩
    obtain ⟨scanned, known⟩ := List.mem_filter.mp member
    obtain ⟨front, word, back, split, isName, whole, rfl⟩ :=
      (mem_findAll_word_iff startsNames_isIdentifierStart).mp scanned
    refine ⟨List.contains_iff_mem.mp known, ?_⟩
    rw [group_wordMatch, String.toList_ofList]
    exact ⟨isName, front, back, split, whole, rfl⟩
  · rintro ⟨known, isName, front, back, split, whole, rfl⟩
    have named : (wordMatch front name.toList back).group 1 = name := by
      rw [group_wordMatch, String.ofList_toList]
    refine ⟨wordMatch front name.toList back, List.mem_filter.mpr ⟨?_, ?_⟩, named, rfl⟩
    · exact (mem_findAll_word_iff startsNames_isIdentifierStart).mpr
        ⟨front, name.toList, back, split, isName, whole, rfl⟩
    · rw [named]
      exact List.contains_iff_mem.mpr known

/-- The first of the matches of a name is at the first place of the name. -/
theorem firstWordAt_of_firstWith
    (first : FirstWith (fun other : Match => other.group 1 = name)
      (identifiersAmong declared source) found)
    : FirstWordAt source name.toList found.start := by
  obtain ⟨known, isName, here⟩ :=
    exists_mem_identifiersAmong_iff.mp ⟨found, first.mem, first.has, rfl⟩
  refine ⟨here, fun offset placed => ?_⟩
  obtain ⟨other, member, named, rfl⟩ :=
    exists_mem_identifiersAmong_iff.mpr ⟨known, isName, placed⟩
  rcases first.eq_or_rel (pairwise_start_identifiersAmong _ _) member named with rfl | later
  · exact Nat.le_refl _
  · exact Nat.le_of_lt later

/-- The names of the matches, each once, are listed as the text mentions them. -/
theorem mentionsInOrder_identifiersAmong (declared : List String) (source : List Char)
    : MentionsInOrder source declared
        (distinct ((identifiersAmong declared source).map (·.group 1))) := by
  refine ⟨nodup_distinct _, fun name => ?_, ?_⟩
  · have matched (offset : Nat) := @exists_mem_identifiersAmong_iff source declared name offset
    rw [mem_distinct, List.mem_map, hasWord_iff_exists_wordAt]
    constructor
    · rintro ⟨found, member, named⟩
      obtain ⟨known, isName, placed⟩ := (matched _).mp ⟨found, member, named, rfl⟩
      exact ⟨known, isName, _, placed⟩
    · rintro ⟨known, isName, offset, placed⟩
      obtain ⟨found, member, named, -⟩ := (matched offset).mpr ⟨known, isName, placed⟩
      exact ⟨found, member, named⟩
  · have firstPlace (found : Match)
        (kept : found ∈ distinctBy (·.group 1) (identifiersAmong declared source))
        : FirstWordAt source (found.group 1).toList found.start :=
      firstWordAt_of_firstWith <|
        (find?_eq_some_iff_firstWith fun _ => decide_eq_true_iff).mp (find?_of_mem_distinctBy kept)
    have inOrder := (pairwise_start_identifiersAmong declared source).sublist
      (distinctFrom_sublist (·.group 1) [] _)
    rw [distinct_map, List.pairwise_map]
    refine inOrder.imp_of_mem ?_
    intro found later first second earlier
    exact ⟨_, _, firstPlace found first, firstPlace later second, earlier⟩

/-- The state variables of a contract are listed as a function mentions them. -/
theorem mentionsInOrder_mentionedVariables (function : FunctionDecl) (contract : ContractDecl)
    : MentionsInOrder function.source.toList (contract.stateVariables.map (·.name))
        (mentionedVariables function contract) := by
  have listed
      : mentionedVariables function contract
        = distinct
            ((identifiersAmong (contract.stateVariables.map (·.name)) function.source.toList).map
              (·.group 1)) := by
    rw [mentionedVariables, List.filter_map]
    rfl
  rw [listed]
  exact mentionsInOrder_identifiersAmong _ _

-----------------------------------------------------------------------------------------
-- Lines
-----------------------------------------------------------------------------------------

/-- The first line that mentions a word is the line of its first place. -/
theorem lineMentioning_of_firstWordAt {function : FunctionDecl}
    (first : FirstWordAt function.source.toList name.toList offset)
    : function.lineMentioning name
      = function.location.first.line + (function.source.toList.take offset).count '\n' := by
  obtain ⟨front, back, -, whole, -⟩ := first.here
  rw [FunctionDecl.lineMentioning, first.findIdx? (by decide)]
  · rfl
  · exact fun line => occursIn_wholeWord_iff whole.some whole.word

end SolidityAtlas
