import SolidityAtlas.Text.Character
import SolidityAtlas.Text.CharacterNames.AToC
import SolidityAtlas.Text.CharacterNames.DToL
import SolidityAtlas.Text.CharacterNames.MToZ

/-! Names of characters. Most of them are listed, and may be written in small letters too; a
syllable of Hangul is named by its letters and a unified ideograph by its code point.
-/

namespace SolidityAtlas.Text.CharacterNames

/-- An entry of a list of names: how many characters the name has in common with the one in front of
it, and the other ones.
-/
def entry (text : List Char) : Nat × List Char :=
  let marks := text.takeWhile Char.isLower
  (marks.foldl (fun common c => common + (c.toNat - 'a'.toNat)) 0, text.drop marks.length)

/-- The entries of a line. A small letter behind another character starts one. -/
def entries (line : String) : List (Nat × List Char) :=
  (line.toList.splitBy fun c next => c.isLower || !next.isLower).map entry

/-- The names of entries that stand behind a name. -/
def namesAfter (previous : List Char) : List (Nat × List Char) → List (List Char)
  | [] => []
  | (common, rest) :: more =>
      let name := previous.take common ++ rest
      name :: namesAfter name more

/-- Whether a name is in lines that stand behind a name. -/
def isIn (name previous : List Char) : List String → Bool
  | [] => false
  | line :: rest =>
      let names := namesAfter previous (entries line)
      names.contains name || isIn name (names.getLastD previous) rest

/-- Whether a name in capital letters is listed. -/
def isListed (name : List Char) : Bool :=
  [namesAToC, namesDToL, namesMToZ].any (isIn name [])

/-- The first letters of syllables; some start with none. -/
def initials : List String :=
  ["", "G", "GG", "N", "D", "DD", "R", "M", "B", "BB", "S", "SS", "J", "JJ", "C", "K", "T", "P",
   "H"]

/-- The vowels of syllables. -/
def vowels : List String :=
  ["A", "AE", "YA", "YAE", "EO", "E", "YEO", "YE", "O", "WA", "WAE", "OE", "YO", "U", "WEO", "WE",
   "WI", "YU", "EU", "YI", "I"]

/-- The last letters of syllables; some end in none. -/
def finals : List String :=
  ["", "G", "GG", "GS", "N", "NJ", "NH", "D", "L", "LG", "LM", "LB", "LS", "LT", "LP", "LH", "M",
   "B", "BS", "S", "SS", "NG", "J", "C", "K", "T", "P", "H"]

/-- Whether letters make a syllable. -/
def isSyllable (letters : List Char) : Bool :=
  initials.any fun initial =>
    vowels.any fun vowel => finals.any fun final =>
      letters = initial.toList ++ vowel.toList ++ final.toList

/-- First and last code point of each run of unified ideographs. -/
def ideographRanges : List (Nat × Nat) :=
  [(0x3400, 0x4dbf), (0x4e00, 0x9fff), (0x20000, 0x2a6df), (0x2a700, 0x2b738), (0x2b740, 0x2b81d),
   (0x2b820, 0x2cea1), (0x2ceb0, 0x2ebe0), (0x30000, 0x3134a)]

/-- The value of a hexadecimal digit in capital letters. -/
def capitalHexValue? (c : Char) : Option Nat :=
  if c.isDigit then some (c.toNat - 0x30)
  else if 'A' ≤ c && c ≤ 'F' then some (c.toNat - 'A'.toNat + 10)
  else none

/-- Whether four or five digits are the code point of a unified ideograph. -/
def isIdeograph (digits : List Char) : Bool :=
  (digits.length = 4 || digits.length = 5) &&
    match digits.mapM capitalHexValue? with
    | some values =>
        inRanges (values.foldl (fun point value => 16 * point + value) 0) ideographRanges
    | none => false

/-- What follows a start in a name, if the name has it. -/
def behind? (start : String) (name : List Char) : Option (List Char) :=
  if start.toList.isPrefixOf name then some (name.drop start.length) else none

end CharacterNames

/-- Whether a text is the name of a character. -/
def isCharacterName (name : List Char) : Bool :=
  match CharacterNames.behind? "HANGUL SYLLABLE " name,
      CharacterNames.behind? "CJK UNIFIED IDEOGRAPH-" name with
  | some letters, _ => CharacterNames.isSyllable letters
  | none, some digits => CharacterNames.isIdeograph digits
  | none, none => CharacterNames.isListed (name.map Char.toUpper)

end SolidityAtlas.Text
