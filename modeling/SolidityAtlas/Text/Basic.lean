import SolidityAtlas.Text.Character

/-! Cutting text: trimming, splitting at a separator, and slicing with signed bounds. Text is a list
of characters here, so every offset and length counts code points.
-/

namespace SolidityAtlas.Text

/-- Text without the characters of a class at its end. -/
def trimEndBy (accepts : Char → Bool) (text : List Char) : List Char :=
  (text.reverse.dropWhile accepts).reverse

/-- Text without the characters of a class at its start and its end. -/
def trimBy (accepts : Char → Bool) (text : List Char) : List Char :=
  trimEndBy accepts (text.dropWhile accepts)

/-- Text without leading and trailing white space. -/
def trim (text : List Char) : List Char :=
  trimBy isSpace text

/-- Text without trailing white space. -/
def trimEnd (text : List Char) : List Char :=
  trimEndBy isSpace text

/-- A string without leading and trailing white space. -/
def trimmed (text : String) : String :=
  String.ofList (trim text.toList)

/-- The pieces between the occurrences of `separator`; text without one is a single piece. -/
def pieces (separator : Char) : List Char → List (List Char)
  | [] => [[]]
  | c :: rest =>
      if c = separator then [] :: pieces separator rest
      else
        match pieces separator rest with
        | [] => [[c]]
        | piece :: others => (c :: piece) :: others

/-- The lines of a text. Only a line feed ends a line, so a carriage return stays in its line. -/
def lines (text : String) : List String :=
  (pieces '\n' text.toList).map String.ofList

/-- A bound counted from the end when negative, brought into the range of `length` items. -/
def clampBound (length : Nat) (bound : Int) : Nat :=
  if bound < 0 then (bound + length).toNat else min bound.toNat length

/-- The items from `start` up to and without `stop`, both clamped. -/
def slice {α : Type} (start stop : Int) (items : List α) : List α :=
  (items.take (clampBound items.length stop)).drop (clampBound items.length start)

/-- The item at an index that counts from the end when negative. -/
def signedGet? {α : Type} (items : List α) (index : Int) : Option α :=
  if 0 ≤ index then items[index.toNat]?
  else if 0 ≤ index + items.length then items[(index + items.length).toNat]?
  else none

/-- Runs of white space, each collapsed to one blank. -/
def collapseSpaces : Bool → List Char → List Char
  | _, [] => []
  | inSpace, c :: rest =>
      if isSpace c then
        if inSpace then collapseSpaces true rest else ' ' :: collapseSpaces true rest
      else c :: collapseSpaces false rest

/-- A name split at its dots, as the first qualifier if there is one and the part after the last
dot.
-/
def qualifierAndName (name : String) : Option String × String :=
  match (pieces '.' name.toList).map String.ofList with
  | [] => (none, name)
  | [only] => (none, only)
  | first :: second :: rest => (some first, (second :: rest).getLast (by simp))

/-- The part of a name after its last dot. -/
def unqualified (name : String) : String :=
  (qualifierAndName name).2

/-- Some piece is always left, even of empty text. -/
theorem pieces_ne_nil (separator : Char) (text : List Char)
    : pieces separator text ≠ [] := by
  cases text with
  | nil => simp [pieces]
  | cons c rest =>
      simp only [pieces]
      split
      · simp
      · split <;> simp

/-- Joining the pieces with the separator gives the text back. -/
theorem intercalate_pieces (separator : Char) (text : List Char)
    : [separator].intercalate (pieces separator text) = text := by
  induction text with
  | nil => rfl
  | cons c rest ih =>
      simp only [pieces]
      cases hp : pieces separator rest with
      | nil => exact absurd hp (pieces_ne_nil separator rest)
      | cons piece others =>
          rw [hp] at ih
          by_cases hc : c = separator
          · simp only [hc, if_true]
            rw [← ih]
            rfl
          · simp only [if_neg hc]
            rw [← ih]
            cases others <;> rfl

end SolidityAtlas.Text
