import SolidityAtlas.Proofs.Pattern.Spelling

/-! Names that patterns capture. A name that is captured between a word edge and something that no
word goes on with is a word of the text, never a part of one. A scan for the words that are names
finds all of them and nothing else, since no match of it reaches into another word.
-/

namespace SolidityAtlas

open Pattern Vocabulary

-----------------------------------------------------------------------------------------
-- Cursors in a text
-----------------------------------------------------------------------------------------

namespace Cursor

variable {text front more rest : List Char} {here : Cursor}

/-- A cursor stands behind the front of a text. -/
structure StandsBehind (text front : List Char) (here : Cursor) : Prop where
  split : text = front ++ here.rest
  before : here.before = front.getLast?

theorem standsBehind_atOffset (text : List Char) (offset : Nat)
    : StandsBehind text (text.take offset) (.atOffset text offset) where
  split := (List.take_append_drop offset text).symm
  before := rfl

/-- Passing text moves the cursor behind it. -/
theorem StandsBehind.pass (stands : StandsBehind text front here) (ahead : here.rest = more ++ rest)
    : StandsBehind text (front ++ more) (here.pass more) where
  split := by rw [rest_pass ahead, List.append_assoc, ← ahead, stands.split]
  before := by
    rw [Cursor.pass, List.getLast?_append, stands.before]

/-- A word character behind the cursor is at a word edge where none stands in front of it. -/
theorem before_of_atWordEdge (edge : here.atWordEdge = true)
    (ahead : here.rest.head?.any Text.isWord = true)
    : here.before.any Text.isWord = false := by
  simpa [atWordEdge, ahead] using edge

end Cursor

namespace Pattern

open Text

variable {text front name rest : List Char} {here stop : Cursor} {pattern : Pattern}
  {patterns : List Pattern} {group : Nat} {accepts starts : Char → Bool} {c : Char}

-----------------------------------------------------------------------------------------
-- Ends of words
-----------------------------------------------------------------------------------------

/-- A pattern that matches behind a word character only where the word ends. -/
def EndsWord (pattern : Pattern) : Prop :=
  ∀ here stop,
    stop ∈ pattern.ways here → here.before.any isWord = true
    → ∀ c ∈ here.rest.head?, isWord c = false

/-- A sequence ends words if its first pattern does. -/
theorem EndsWord.sequence_cons (ends : EndsWord pattern) : EndsWord (sequence (pattern :: patterns))
    := by
  intro here stop member
  obtain ⟨mid, reached, -⟩ := mem_ways_sequence_cons.mp member
  exact ends here mid reached

/-- A character that is no word character ends a word. -/
theorem endsWord_one (other : ∀ c, accepts c = true → isWord c = false)
    : EndsWord (one accepts) := by
  intro here stop member _ c ahead
  obtain ⟨found, rest, split, accepted, -⟩ := mem_ways_one.mp member
  rw [split] at ahead
  obtain rfl := Option.some.inj ahead
  exact other found accepted

theorem endsWord_char (other : isWord c = false) : EndsWord (char c) := by
  refine endsWord_one ?_
  intro found same
  rwa [of_decide_eq_true same]

/-- White space ends a word. -/
theorem endsWord_gap : EndsWord gap := by
  intro here stop member
  obtain ⟨mid, reached, -⟩ := mem_ways_seq.mp member
  exact endsWord_one (fun _ => isWord_of_isSpace) here mid reached

/-- A character that is no word character ends a word, also with white space in front of it. -/
theorem endsWord_spaces_char (other : isWord c = false)
    : EndsWord (sequence (spaces :: char c :: patterns)) := by
  intro here stop member inside found ahead
  obtain ⟨mid, reached, onward⟩ := mem_ways_sequence_cons.mp member
  obtain ⟨blanks, rest, split, blank, rfl⟩ :=
    Cursor.exists_of_mem_runs (List.mem_reverse.mp reached)
  cases blanks with
  | nil =>
      rw [Cursor.pass_nil] at onward
      exact (endsWord_char other).sequence_cons here stop onward inside found ahead
  | cons first blanks =>
      rw [split] at ahead
      obtain rfl := Option.some.inj ahead
      exact isWord_of_isSpace (blank first List.mem_cons_self)

/-- A word edge behind a word character ends the word. -/
theorem endsWord_wordEdge : EndsWord wordEdge := by
  intro here stop member inside c ahead
  simp only [ways, List.mem_ite_nil_right, List.mem_singleton] at member
  have edge := member.1
  rw [Cursor.atWordEdge, inside, Option.mem_def.mp ahead] at edge
  simpa using edge

-----------------------------------------------------------------------------------------
-- Captured names
-----------------------------------------------------------------------------------------

/-- A sequence that starts with a word edge matches at word edges, like the rest of it. -/
theorem mem_ways_wordEdge_cons
    : stop ∈ (sequence (.wordEdge :: patterns)).ways here
      ↔ here.atWordEdge = true ∧ stop ∈ (sequence patterns).ways here := by
  simp only [mem_ways_sequence_cons, ways, List.mem_ite_nil_right, List.mem_singleton]
  constructor
  · rintro ⟨mid, ⟨edge, rfl⟩, onward⟩
    exact ⟨edge, onward⟩
  · rintro ⟨edge, onward⟩
    exact ⟨here, ⟨edge, rfl⟩, onward⟩

/-- A name that is captured where a word starts, in front of something that ends words, is a word of
the text.
-/
theorem exists_name_of_capture (letters : StartsNames starts)
    (stands : here.StandsBehind text front)
    (outside : here.rest.head?.any isWord = true → here.before.any isWord = false)
    (ends : EndsWord (sequence patterns))
    (member : stop ∈ (sequence (.capture group (nameStarting starts) :: patterns)).ways here)
    : ∃ name rest,
        here.rest = name ++ rest
        ∧ IsName starts name
        ∧ IsWordBetween front name rest
        ∧ stop ∈ (sequence patterns).ways (here.capture group (here.pass name)) := by
  obtain ⟨mid, reached, onward⟩ := mem_ways_sequence_cons.mp member
  obtain ⟨inner, found, rfl⟩ := mem_ways_capture.mp reached
  obtain ⟨name, rest, ahead, spelled, rfl⟩ := (mem_ways_iff_spells plain_nameStarting).mp found
  have isName : IsName starts name := (spells_nameStarting letters).mp spelled
  refine ⟨name, rest, ahead, isName, isName.isWordBetween ?_ ?_, onward⟩
  · obtain ⟨c, letters, rfl⟩ := List.exists_cons_of_ne_nil isName.some
    have before : here.before.any isWord = false := by
      refine outside ?_
      rw [ahead]
      exact isName.isWord c List.mem_cons_self
    rwa [stands.before, Option.any_eq_false] at before
  · have inside : (here.pass name).before.any isWord = true := by
      rw [Cursor.pass, List.getLast?_eq_some_getLast isName.some]
      exact isName.isWord _ (List.getLast_mem isName.some)
    have behind := ends _ stop onward inside
    rwa [Cursor.capture, Cursor.rest_pass ahead] at behind

/-- What is captured of such a name is the whole name. -/
theorem exists_captured_name (letters : StartsNames starts) (stands : here.StandsBehind text front)
    (outside : here.rest.head?.any isWord = true → here.before.any isWord = false)
    (ends : EndsWord (sequence patterns)) (last : group ∉ (sequence patterns).captures)
    (member : stop ∈ (sequence (.capture group (nameStarting starts) :: patterns)).ways here)
    : ∃ name rest captured,
        here.rest = name ++ rest
        ∧ IsName starts name
        ∧ IsWordBetween front name rest
        ∧ stop.groups.lookup group = some captured
        ∧ captured.text = String.ofList name := by
  obtain ⟨name, rest, ahead, isName, whole, onward⟩ :=
    exists_name_of_capture letters stands outside ends member
  have captured : stop.groups.lookup group = some { rest := here.rest, length := name.length } := by
    rw [lookup_groups_of_mem_ways onward last, Cursor.groups_capture_pass, List.lookup_cons,
      beq_self_eq_true]
  exact ⟨name, rest, _, ahead, isName, whole, captured, Captured.text_of_append ahead⟩

/-- Capitalised names that are captured in this way are words of the text. -/
theorem exists_mention_of_capture (stands : here.StandsBehind text front)
    (starts : here.rest.head?.any isWord = true → here.before.any isWord = false)
    (ends : EndsWord (sequence patterns)) (last : group ∉ (sequence patterns).captures)
    (member : stop ∈ (sequence (.capture group capitalName :: patterns)).ways here)
    : ∃ captured, stop.groups.lookup group = some captured ∧ Mentions text captured.text := by
  obtain ⟨name, rest, captured, ahead, capital, whole, known, spelled⟩ :=
    exists_captured_name startsNames_isUpper stands starts ends last member
  refine ⟨captured, known, ?_⟩
  rw [spelled]
  have plain : IsCapitalName (String.ofList name).toList := by
    rwa [String.toList_ofList, isCapitalName_iff]
  refine ⟨plain, front, rest, ?_, by rwa [String.toList_ofList]⟩
  rw [String.toList_ofList, ← ahead, ← stands.split]

/-- The names that a pattern captures between a word edge and something that ends words are words of
the text.
-/
theorem exists_mention_of_wordEdge (ends : EndsWord (sequence patterns))
    (last : group ∉ (sequence patterns).captures) (stands : here.StandsBehind text front)
    (member : stop ∈ (sequence (.wordEdge :: .capture group capitalName :: patterns)).ways here)
    : ∃ captured, stop.groups.lookup group = some captured ∧ Mentions text captured.text := by
  obtain ⟨atEdge, onward⟩ := mem_ways_wordEdge_cons.mp member
  exact exists_mention_of_capture stands (Cursor.before_of_atWordEdge atEdge) ends last onward

-----------------------------------------------------------------------------------------
-- Given words
-----------------------------------------------------------------------------------------

/-- Word characters between two word edges are a word of the text. -/
theorem atWordEdge_iff_isWordBetween (stands : here.StandsBehind text front)
    (ahead : here.rest = name ++ rest) (given : name ≠ []) (letters : ∀ c ∈ name, isWord c = true)
    : here.atWordEdge = true ∧ (here.pass name).atWordEdge = true ↔ IsWordBetween front name rest
    := by
  have first : here.rest.head?.any isWord = true := by
    obtain ⟨c, others, rfl⟩ := List.exists_cons_of_ne_nil given
    rw [ahead]
    exact letters c List.mem_cons_self
  have last : (here.pass name).before.any isWord = true := by
    rw [Cursor.pass, List.getLast?_eq_some_getLast given]
    exact letters _ (List.getLast_mem given)
  rw [Cursor.atWordEdge, Cursor.atWordEdge, first, last, stands.before, Cursor.rest_pass ahead,
    Bool.bne_true, Bool.true_bne, Bool.not_eq_true', Bool.not_eq_true', Option.any_eq_false,
    Option.any_eq_false]
  constructor
  · intro edges
    exact ⟨given, letters, edges.1, edges.2⟩
  · intro whole
    exact ⟨whole.before, whole.behind⟩

/-- A given word is matched at a place where the text has it as a word. -/
theorem exists_mem_ways_wholeWord_iff {word : String} (given : word.toList ≠ [])
    (letters : ∀ c ∈ word.toList, isWord c = true) (stands : here.StandsBehind text front)
    : (∃ stop, stop ∈ (wholeWord word).ways here)
      ↔ ∃ back, here.rest = word.toList ++ back ∧ IsWordBetween front word.toList back := by
  constructor
  · rintro ⟨stop, member⟩
    obtain ⟨startEdge, onward⟩ := mem_ways_wordEdge_cons.mp member
    obtain ⟨mid, reached, last⟩ := mem_ways_sequence_cons.mp onward
    obtain ⟨passed, back, ahead, spelled, rfl⟩ :=
      (mem_ways_iff_spells (plain_literal word)).mp reached
    obtain rfl := spells_literal.mp spelled
    have stopEdge := (mem_ways_wordEdge_cons.mp last).1
    exact ⟨back, ahead,
      (atWordEdge_iff_isWordBetween stands ahead given letters).mp ⟨startEdge, stopEdge⟩⟩
  · rintro ⟨back, ahead, whole⟩
    obtain ⟨startEdge, stopEdge⟩ :=
      (atWordEdge_iff_isWordBetween stands ahead given letters).mpr whole
    have reached : here.pass word.toList ∈ (literal word).ways here :=
      (mem_ways_iff_spells (plain_literal word)).mpr
        ⟨_, back, ahead, spells_literal.mpr rfl, rfl⟩
    refine ⟨here.pass word.toList, mem_ways_wordEdge_cons.mpr ⟨startEdge, ?_⟩⟩
    refine mem_ways_sequence_cons.mpr ⟨_, reached, mem_ways_wordEdge_cons.mpr ⟨stopEdge, ?_⟩⟩
    exact List.mem_singleton_self _

/-- The pattern of a given word occurs in the texts that have the word. -/
theorem occursIn_wholeWord_iff {word : String} (given : word.toList ≠ [])
    (letters : ∀ c ∈ word.toList, isWord c = true)
    : (wholeWord word).occursIn text = true ↔ HasWord text word.toList := by
  rw [occursIn_iff]
  constructor
  · rintro ⟨front, rest, rfl, matched⟩
    have stands := Cursor.standsBehind_atOffset (front ++ rest) front.length
    obtain ⟨back, ahead, whole⟩ :=
      (exists_mem_ways_wholeWord_iff given letters stands).mp matched
    rw [List.take_left] at whole
    rw [Cursor.atOffset_append] at ahead
    exact ⟨front, back, congrArg (front ++ ·) ahead, whole⟩
  · rintro ⟨front, back, rfl, whole⟩
    have stands := Cursor.standsBehind_atOffset (front ++ (word.toList ++ back)) front.length
    refine ⟨front, word.toList ++ back, rfl, ?_⟩
    rw [exists_mem_ways_wholeWord_iff given letters stands, List.take_left, Cursor.atOffset_append]
    exact ⟨back, rfl, whole⟩

-----------------------------------------------------------------------------------------
-- Scans for words
-----------------------------------------------------------------------------------------

variable {found : Match}

/-- A name that is a word, captured under the number 1. -/
def wordStarting (starts : Char → Bool) : Pattern :=
  sequence [.wordEdge, .capture 1 (nameStarting starts), .wordEdge]

/-- What a scan for words finds at the start of one. -/
def wordMatch (front name rest : List Char) : Match :=
  { start := front.length
    stop := front.length + name.length
    groups := [(1, { rest := name ++ rest, length := name.length })] }

/-- The word is what was captured. -/
theorem group_wordMatch : (wordMatch front name rest).group 1 = String.ofList name := by
  rw [Match.group, Match.group?, wordMatch]
  simp [Captured.text]

/-- A word that is a name is matched where it starts. -/
theorem matchAt_word (isName : IsName starts name) (whole : IsWordBetween front name rest)
    : (wordStarting starts).matchAt (.atOffset (front ++ (name ++ rest)) front.length)
      = some (wordMatch front name rest) := by
  let here : Cursor :=
    { offset := front.length, before := front.getLast?, rest := name ++ rest }
  have stands : here.StandsBehind (front ++ (name ++ rest)) front := ⟨rfl, rfl⟩
  obtain ⟨startEdge, stopEdge⟩ :=
    (atWordEdge_iff_isWordBetween stands rfl isName.some isName.isWord).mpr whole
  have found
      : (wordStarting starts).firstWay here some = some (here.capture 1 (here.pass name)) := by
    obtain ⟨c, letters, rfl⟩ := List.exists_cons_of_ne_nil isName.some
    have first : starts c = true := by simpa using isName.first
    rw [wordStarting, firstWay_sequence_cons, firstWay, if_pos startEdge, firstWay_sequence_cons,
      firstWay, nameStarting, firstWay_sequence_cons, firstWay_one rfl first,
      firstWay_sequence_cons]
    refine firstWay_many (Cursor.rest_pass rfl) ?_ ?_ ?_
    · exact fun other member => isName.plain other (List.mem_cons_of_mem c member)
    · intro more after split given all
      obtain ⟨other, more, rfl⟩ := List.exists_cons_of_ne_nil given
      have inside := isWord_of_isIdentifierPart (all other List.mem_cons_self)
      rw [whole.behind other (by simp [split])] at inside
      cases inside
    · rw [← Cursor.pass_append, List.singleton_append]
      change wordEdge.firstWay _ _ = _
      rw [firstWay]
      exact if_pos stopEdge
  rw [Cursor.atOffset_append, matchAt, found]
  simp [wordMatch, Cursor.capture, Cursor.pass, here]

/-- What is matched as a word is one at the place where it starts. -/
theorem exists_of_matchAt_word {offset : Nat} (letters : StartsNames starts)
    (matched : (wordStarting starts).matchAt (.atOffset text offset) = some found)
    (inside : offset ≤ text.length)
    : ∃ front name rest,
        text = front ++ (name ++ rest)
        ∧ IsName starts name
        ∧ IsWordBetween front name rest
        ∧ found = wordMatch front name rest
        ∧ front.length = offset := by
  obtain ⟨stop, member, -⟩ := exists_mem_ways_of_matchAt matched
  obtain ⟨atEdge, onward⟩ := mem_ways_wordEdge_cons.mp member
  have stands := Cursor.standsBehind_atOffset text offset
  obtain ⟨name, rest, ahead, isName, whole, -⟩ :=
    exists_name_of_capture letters stands (Cursor.before_of_atWordEdge atEdge)
      endsWord_wordEdge.sequence_cons onward
  have length : (text.take offset).length = offset := List.length_take_of_le inside
  have split : text = text.take offset ++ (name ++ rest) := by rw [← ahead, ← stands.split]
  refine ⟨text.take offset, name, rest, split, isName, whole, ?_, length⟩
  have known := matchAt_word isName whole
  rw [← split, length, matched] at known
  exact Option.some.inj known

/-- A scan for words that are names finds them and nothing else. -/
theorem mem_findAll_word_iff (letters : StartsNames starts)
    : found ∈ (wordStarting starts).findAll text
      ↔ ∃ front name rest,
          text = front ++ (name ++ rest)
          ∧ IsName starts name
          ∧ IsWordBetween front name rest
          ∧ found = wordMatch front name rest := by
  constructor
  · intro member
    obtain ⟨front, name, rest, split, isName, whole, same, -⟩ :=
      exists_of_matchAt_word letters (matchAt_of_mem_findAll member)
        (start_le_of_mem_findAll member)
    exact ⟨front, name, rest, split, isName, whole, same⟩
  · rintro ⟨front, name, rest, rfl, isName, whole, rfl⟩
    refine mem_findAll_of_clear (matchAt_word isName whole) ?_
    intro offset earlier before matched
    obtain ⟨front', name', rest', split, -, other, rfl, rfl⟩ :=
      exists_of_matchAt_word letters matched (by simp; omega)
    exact other.apart whole split.symm before

end Pattern

end SolidityAtlas
