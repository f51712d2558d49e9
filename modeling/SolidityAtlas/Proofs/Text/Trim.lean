import SolidityAtlas.Text.Basic
import Mathlib.Data.List.TakeWhile

/-! Text without the white space around it. Trimming takes white space away and nothing else, and
text that neither starts nor ends with white space stays as it is.
-/

namespace SolidityAtlas.Text

variable {front text : List Char}

/-- Text that neither starts nor ends with white space. -/
structure IsTrimmed (text : List Char) : Prop where
  first : ∀ c ∈ text.head?, isSpace c = false
  last : ∀ c ∈ text.getLast?, isSpace c = false

instance : Decidable (IsTrimmed text) :=
  decidable_of_iff
    (text.head?.toList.all (fun c => isSpace c == false) = true
      ∧ text.getLast?.toList.all (fun c => isSpace c == false) = true)
    ⟨fun ⟨first, last⟩ => ⟨by simpa using first, by simpa using last⟩,
    fun trimmed => ⟨by simpa using trimmed.first, by simpa using trimmed.last⟩⟩

/-- The characters of a class that a text starts with are left away and no others. -/
theorem dropWhile_eq_self {accepts : Char → Bool} (first : ∀ c ∈ text.head?, accepts c = false)
    : text.dropWhile accepts = text := by
  cases text with
  | nil => rfl
  | cons c rest => exact List.dropWhile_cons_of_neg (by simp [first c rfl])

/-- What is left does not start with a character of the class. -/
theorem head?_dropWhile (accepts : Char → Bool) (text : List Char)
    : ∀ c ∈ (text.dropWhile accepts).head?, accepts c = false := by
  intro c starts
  have stops := List.head?_dropWhile_not accepts text
  rwa [Option.mem_def.mp starts] at stops

/-- Text without white space around it is not trimmed. -/
theorem IsTrimmed.trim_eq (trimmed : IsTrimmed text) : trim text = text := by
  have backwards : ∀ c ∈ text.reverse.head?, isSpace c = false := by
    rw [List.head?_reverse]
    exact trimmed.last
  rw [trim, trimBy, dropWhile_eq_self trimmed.first, trimEndBy, dropWhile_eq_self backwards,
    List.reverse_reverse]

/-- What is cut off at the end of a text stands behind what is left. -/
theorem trimEndBy_append (accepts : Char → Bool) (text : List Char)
    : trimEndBy accepts text ++ (text.reverse.takeWhile accepts).reverse = text := by
  rw [trimEndBy, ← List.reverse_append, List.takeWhile_append_dropWhile, List.reverse_reverse]

/-- A text is its trimmed text between white space. -/
theorem exists_around_trim (text : List Char)
    : ∃ front back,
        text = front ++ (trim text ++ back)
        ∧ (∀ c ∈ front, isSpace c = true)
        ∧ ∀ c ∈ back, isSpace c = true := by
  refine ⟨text.takeWhile isSpace,
    ((text.dropWhile isSpace).reverse.takeWhile isSpace).reverse, ?_, ?_, ?_⟩
  · rw [trim, trimBy, trimEndBy_append, List.takeWhile_append_dropWhile]
  · exact fun c member => List.mem_takeWhile_imp member
  · exact fun c member => List.mem_takeWhile_imp (List.mem_reverse.mp member)

/-- Trimmed text has no white space around it. -/
theorem isTrimmed_trim (text : List Char) : IsTrimmed (trim text) where
  first := by
    intro c starts
    refine head?_dropWhile isSpace text c ?_
    rw [← trimEndBy_append isSpace (text.dropWhile isSpace), List.head?_append]
    exact Option.or_eq_some_iff.mpr (.inl starts)
  last := by
    rw [trim, trimBy, trimEndBy, List.getLast?_reverse]
    exact head?_dropWhile isSpace _

/-- White space in front of a text is trimmed. -/
theorem trim_append_left (blank : ∀ c ∈ front, isSpace c = true)
    : trim (front ++ text) = trim text := by
  rw [trim, trimBy, List.dropWhile_append_of_pos blank, trim, trimBy]

end SolidityAtlas.Text
