import SolidityAtlas.Text.Basic
import SolidityAtlas.Text.UnprintableRanges

/-! Quoted text: a string between quotation marks with everything escaped that is not printable, as
file names and nested values are shown in messages.
-/

namespace SolidityAtlas.Text

/-- Whether a character is shown as it is. Of the white space only the blank is. -/
def isPrintable (c : Char) : Bool :=
  if c.toNat < 0x80 then 0x20 ≤ c.toNat && c.toNat ≤ 0x7e
  else !inRanges c.toNat unprintableRanges

/-- The lower-case hexadecimal digit of a value below sixteen. -/
def hexDigit (value : Nat) : Char :=
  "0123456789abcdef".toList.getD value '0'

/-- The lowest `width` hexadecimal digits of a number. -/
def hexDigits : Nat → Nat → List Char
  | 0, _ => []
  | width + 1, value => hexDigits width (value / 16) ++ [hexDigit (value % 16)]

/-- The escape of a character by its code point, in as few of 2, 4 or 8 digits as will do. -/
def codeEscape (c : Char) : List Char :=
  if c.toNat < 0x100 then '\\' :: 'x' :: hexDigits 2 c.toNat
  else if c.toNat < 0x10000 then '\\' :: 'u' :: hexDigits 4 c.toNat
  else '\\' :: 'U' :: hexDigits 8 c.toNat

/-- A character inside quotes: backslashes, the quote itself and what is not printable are
escaped.
-/
def quotedChar (quote : Char) (c : Char) : List Char :=
  if c = quote ∨ c = '\\' then ['\\', c]
  else if c = '\n' then ['\\', 'n']
  else if c = '\r' then ['\\', 'r']
  else if c = '\t' then ['\\', 't']
  else if isPrintable c then [c]
  else codeEscape c

/-- The text between single quotes, or between double quotes when it holds a single quote and no
double one.
-/
def quoted (text : String) : String :=
  let quote := if text.toList.contains '\'' && !text.toList.contains '"' then '"' else '\''
  String.ofList (quote :: text.toList.flatMap (quotedChar quote) ++ [quote])

end SolidityAtlas.Text
