import SolidityAtlas.Text.CaseRanges
import SolidityAtlas.Text.DigitRanges
import SolidityAtlas.Text.LowercaseRanges
import SolidityAtlas.Text.WordRanges
import SolidityAtlas.Text.UppercaseRanges

/-! Character classes of source text: white space, word characters, decimal digits, upper-case
letters and their lower-case forms, and the ASCII classes that Solidity identifiers are made of.
Every class decides ASCII by comparison and leaves the rest to a table.
-/

namespace SolidityAtlas.Text

/-- Membership in increasing closed ranges; the search stops at the first range above `point`. -/
def inRanges (point : Nat) : List (Nat × Nat) → Bool
  | [] => false
  | (first, last) :: rest =>
      if point < first then false else if point ≤ last then true else inRanges point rest

/-- Membership in increasing stepped ranges. -/
def inSteppedRanges (point : Nat) : List (Nat × Nat × Nat) → Bool
  | [] => false
  | (first, last, step) :: rest =>
      if point < first then false
      else if point ≤ last then (point - first) % step = 0
      else inSteppedRanges point rest

/-- White space outside ASCII: next line, no-break space and the Unicode space separators. -/
def spaceRanges : List (Nat × Nat) :=
  [(0x85, 0x85), (0xa0, 0xa0), (0x1680, 0x1680), (0x2000, 0x200a), (0x2028, 0x2029),
   (0x202f, 0x202f), (0x205f, 0x205f), (0x3000, 0x3000)]

/-- White space includes the four ASCII separators U+001C to U+001F; the zero-width space and the
byte-order mark are not white space.
-/
def isSpace (c : Char) : Bool :=
  if c.toNat < 0x80 then
    (0x09 ≤ c.toNat && c.toNat ≤ 0x0d) || (0x1c ≤ c.toNat && c.toNat ≤ 0x20)
  else inRanges c.toNat spaceRanges

/-- White space but for the ASCII separators U+001C to U+001F. -/
def isBlank (c : Char) : Bool :=
  isSpace c && !(0x1c ≤ c.toNat && c.toNat ≤ 0x1f)

/-- What ends a line of text that is measured: the line breaks of every platform, form feeds and the
separators that stand for lines or more.
-/
def isLineBreak (c : Char) : Bool :=
  (0x0a ≤ c.toNat && c.toNat ≤ 0x0d) || (0x1c ≤ c.toNat && c.toNat ≤ 0x1e) || c = '\u0085' ||
    c = '\u2028' || c = '\u2029'

/-- Word characters are letters, digits and numbers of any script, and the underscore. -/
def isWord (c : Char) : Bool :=
  if c.toNat < 0x80 then c.isAlphanum || c = '_' else inRanges c.toNat wordRanges

/-- The value of a decimal digit of any script. -/
def digitValue? (c : Char) : Option Nat :=
  if c.isDigit then some (c.toNat - 0x30)
  else
    (zeroDigits.find? fun first => first ≤ c.toNat && c.toNat < first + 10).map fun first =>
      c.toNat - first

/-- Upper-case letters of any script. -/
def isUppercase (c : Char) : Bool :=
  if c.toNat < 0x80 then c.isUpper else inSteppedRanges c.toNat uppercaseRanges

/-- What may follow the first character of an ASCII identifier. -/
def isIdentifierPart (c : Char) : Bool :=
  c.isAlphanum || c = '_'

/-- What may start an ASCII identifier. -/
def isIdentifierStart (c : Char) : Bool :=
  c.isAlpha || c = '_'

/-- What starts a name that is not capitalised. -/
def isLowerStart (c : Char) : Bool :=
  c.isLower || c = '_'

/-- What a constant or enum member is written with after its first letter. -/
def isConstantPart (c : Char) : Bool :=
  c.isUpper || c.isDigit || c = '_'

/-- Any character but a line feed. -/
def isInline (c : Char) : Bool :=
  c ≠ '\n'

/-- The ASCII lower-case form of a character, where it has one. Outside A to Z only the Kelvin sign
has, so this fold is enough to compare a name with lower-case ASCII names.
-/
def asciiLower (c : Char) : Char :=
  if c = '\u212a' then 'k' else c.toLower

/-- What leads from a code point to that of its lower-case form, by the range it belongs to. -/
def lowerShift (point : Nat) : List (Nat × Nat × Nat × Int) → Int
  | [] => 0
  | (first, last, step, shift) :: rest =>
      if point < first then 0
      else if point ≤ last then (if (point - first) % step = 0 then shift else 0)
      else lowerShift point rest

/-- The lower-case form of a character of any script; a capital I with a dot keeps the dot. -/
def lower (c : Char) : List Char :=
  if c.toNat < 0x80 then [c.toLower]
  else if c = '\u0130' then ['i', '\u0307']
  else [Char.ofNat (c.toNat + lowerShift c.toNat lowercaseRanges).toNat]

/-- Whether a character has a case and is not passed over in the search for one. -/
def isCased (c : Char) : Bool :=
  if c.toNat < 0x80 then c.isAlpha else inRanges c.toNat casedRanges

/-- Whether a character is passed over in the search for one that has a case. -/
def isCaseIgnorable (c : Char) : Bool :=
  if c.toNat < 0x80 then c = '\x27' || c = '.' || c = ':' || c = '^' || c = '\x60'
  else inRanges c.toNat caseIgnorableRanges

/-- Whether the first character that is not passed over has a case. -/
def meetsCased (text : List Char) : Bool :=
  (text.dropWhile isCaseIgnorable).head?.any isCased

/-- The lower-case form of a text behind another one, which is given last character first. A capital
sigma at the end of a word has a form of its own.
-/
def loweredAfter (before : List Char) : List Char → List Char
  | [] => []
  | c :: rest =>
      let form :=
        if c = '\u03a3' && meetsCased before && !meetsCased rest then ['\u03c2'] else lower c
      form ++ loweredAfter (c :: before) rest

/-- The lower-case form of a text. -/
def lowered (text : List Char) : List Char :=
  loweredAfter [] text

/-- A character up to an ASCII one is itself ASCII. -/
theorem toNat_lt_of_le {c : Char} {last : UInt32} (hc : c.val ≤ last) (hl : last.toNat < 0x80)
    : c.toNat < 0x80 :=
  Nat.lt_of_le_of_lt (UInt32.le_iff_toNat_le.mp hc) hl

/-- Identifier characters are ASCII. -/
theorem toNat_lt_of_isIdentifierPart {c : Char} (h : isIdentifierPart c = true)
    : c.toNat < 0x80 := by
  rcases Bool.or_eq_true_iff.mp h with h | h
  · rcases Bool.or_eq_true_iff.mp h with h | h
    · rcases Bool.or_eq_true_iff.mp h with h | h
      · exact toNat_lt_of_le (of_decide_eq_true h).2 (by decide)
      · exact toNat_lt_of_le (of_decide_eq_true (Bool.and_eq_true_iff.mp h).2) (by decide)
    · exact toNat_lt_of_le (of_decide_eq_true (Bool.and_eq_true_iff.mp h).2) (by decide)
  · rw [of_decide_eq_true h]
    decide

/-- Identifier characters are word characters. -/
theorem isWord_of_isIdentifierPart {c : Char} (h : isIdentifierPart c = true)
    : isWord c = true := by
  rw [isWord, if_pos (toNat_lt_of_isIdentifierPart h)]
  exact h

end SolidityAtlas.Text
