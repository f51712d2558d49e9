import SolidityAtlas.Text.Character
import Mathlib.Tactic.SplitIfs

/-! Words of a text: runs of word characters that no word character stands next to. Two words that
start at different places have no character in common, and a capitalised name that is a word is no
part of a longer name, whatever scripts the text is written in.
-/

namespace SolidityAtlas.Text

variable {c : Char} {front word back text : List Char}

/-- A part of a text is a word there. -/
structure IsWordBetween (front word back : List Char) : Prop where
  some : word ≠ []
  word : ∀ c ∈ word, isWord c = true
  before : ∀ c ∈ front.getLast?, isWord c = false
  behind : ∀ c ∈ back.head?, isWord c = false

-- The characters of a word are tested one by one: an instance for a bounded quantifier may be found
-- that goes through all characters there are.
instance : Decidable (IsWordBetween front word back) :=
  decidable_of_iff
    (word ≠ [] ∧ word.all isWord = true
      ∧ front.getLast?.toList.all (fun c => isWord c == false) = true
      ∧ back.head?.toList.all (fun c => isWord c == false) = true)
    ⟨fun ⟨given, word, before, behind⟩ =>
      ⟨given, List.all_eq_true.mp word, by simpa using before, by simpa using behind⟩,
    fun whole =>
      ⟨whole.some, List.all_eq_true.mpr whole.word, by simpa using whole.before,
        by simpa using whole.behind⟩⟩

/-- A text has a word. -/
def HasWord (text word : List Char) : Prop :=
  ∃ front back, text = front ++ (word ++ back) ∧ IsWordBetween front word back

/-- A capitalised ASCII identifier. -/
structure IsCapitalName (name : List Char) : Prop where
  capital : name.head?.any Char.isUpper = true
  plain : ∀ c ∈ name, isIdentifierPart c = true

instance : Decidable (IsCapitalName text) :=
  decidable_of_iff (text.head?.any Char.isUpper = true ∧ text.all isIdentifierPart = true)
    ⟨fun ⟨capital, plain⟩ => ⟨capital, List.all_eq_true.mp plain⟩,
    fun name => ⟨name.capital, List.all_eq_true.mpr name.plain⟩⟩

/-- An ASCII identifier whose first character is of a class. -/
structure IsName (starts : Char → Bool) (name : List Char) : Prop where
  first : name.head?.any starts = true
  plain : ∀ c ∈ name, isIdentifierPart c = true

instance {starts : Char → Bool} : Decidable (IsName starts text) :=
  decidable_of_iff (text.head?.any starts = true ∧ text.all isIdentifierPart = true)
    ⟨fun ⟨first, plain⟩ => ⟨first, List.all_eq_true.mp plain⟩,
    fun name => ⟨name.first, List.all_eq_true.mpr name.plain⟩⟩

/-- A text has a capitalised name as a word. -/
structure Mentions (text : List Char) (name : String) : Prop where
  capital : IsCapitalName name.toList
  word : HasWord text name.toList

/-- The letters of a name are word characters. -/
theorem IsName.isWord {starts : Char → Bool} (name : IsName starts word)
    : ∀ c ∈ word, isWord c = true :=
  fun c member => isWord_of_isIdentifierPart (name.plain c member)

theorem IsName.some {starts : Char → Bool} (name : IsName starts word) : word ≠ [] := by
  rintro rfl
  cases name.first

/-- A name is a word between characters that are no word characters. -/
theorem IsName.isWordBetween {starts : Char → Bool} (name : IsName starts word)
    (before : ∀ c ∈ front.getLast?, Text.isWord c = false)
    (behind : ∀ c ∈ back.head?, Text.isWord c = false)
    : IsWordBetween front word back :=
  ⟨name.some, name.isWord, before, behind⟩

/-- No name has a dot. -/
theorem IsName.dot_not_mem {starts : Char → Bool} (name : IsName starts word) : '.' ∉ word := by
  intro member
  have inside := name.plain '.' member
  cases inside

/-- A capitalised name is a name that starts with a capital. -/
theorem isCapitalName_iff : IsCapitalName word ↔ IsName Char.isUpper word :=
  ⟨fun ⟨capital, plain⟩ => ⟨capital, plain⟩, fun ⟨first, plain⟩ => ⟨first, plain⟩⟩

/-- The letters of a capitalised name are word characters. -/
theorem IsCapitalName.isWord (name : IsCapitalName word) : ∀ c ∈ word, isWord c = true :=
  (isCapitalName_iff.mp name).isWord

/-- A point that is found in ranges lies in one of them, by induction on the ranges. -/
theorem exists_of_inRanges {point : Nat} {ranges : List (Nat × Nat)}
    (inside : inRanges point ranges = true)
    : ∃ range ∈ ranges, range.1 ≤ point ∧ point ≤ range.2 := by
  induction ranges with
  | nil => cases inside
  | cons range rest ih =>
      rw [inRanges] at inside
      split_ifs at inside with below reached
      · exact ⟨range, List.mem_cons_self, Nat.le_of_not_lt below, reached⟩
      · obtain ⟨other, member, within⟩ := ih inside
        exact ⟨other, List.mem_cons_of_mem range member, within⟩

/-- White space is no word character: the tables of the two classes have no point in common. -/
theorem isWord_of_isSpace (space : isSpace c = true) : isWord c = false := by
  by_cases ascii : c.toNat < 0x80
  · have apart
        : ∀ point < 0x80,
            isSpace (Char.ofNat point) = true → isWord (Char.ofNat point) = false := by
      decide +kernel
    rw [← Char.ofNat_toNat c] at space ⊢
    exact apart c.toNat ascii space
  · have apart
        : ∀ range ∈ spaceRanges, ∀ point ∈ List.range' range.1 (range.2 + 1 - range.1),
            inRanges point wordRanges = false := by
      decide +kernel
    rw [isSpace, if_neg ascii] at space
    obtain ⟨range, member, first, last⟩ := exists_of_inRanges space
    rw [isWord, if_neg ascii]
    exact apart range member c.toNat (List.mem_range'_1.mpr ⟨first, by omega⟩)

/-- A word goes on for as long as there are word characters. -/
theorem IsWordBetween.takeWhile_eq (whole : IsWordBetween front word back)
    : (word ++ back).takeWhile isWord = word := by
  rw [List.takeWhile_append_of_pos whole.word]
  cases back with
  | nil => simp
  | cons c rest => simp [whole.behind c rfl]

/-- A word that starts in front of another one ends in front of it. -/
theorem IsWordBetween.apart {front' word' back' : List Char} (first : IsWordBetween front word back)
    (second : IsWordBetween front' word' back')
    (same : front ++ (word ++ back) = front' ++ (word' ++ back'))
    (earlier : front.length < front'.length)
    : front.length + word.length ≤ front'.length := by
  rcases List.append_eq_append_iff.mp same with ⟨between, rfl, split⟩ | ⟨between, rfl, -⟩
  · rcases List.append_eq_append_iff.mp split with ⟨more, rfl, -⟩ | ⟨more, rfl, -⟩
    · simp
    · have given : between ≠ [] := by
        rintro rfl
        simp at earlier
      have last : (front ++ between).getLast? = .some (between.getLast given) := by
        rw [List.getLast?_append, List.getLast?_eq_some_getLast given, Option.some_or]
      have inside := first.word _ (List.mem_append_left more (List.getLast_mem given))
      rw [second.before _ last] at inside
      cases inside
  · simp only [List.length_append] at earlier
    omega

end SolidityAtlas.Text
