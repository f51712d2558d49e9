import SolidityAtlas.Json.Basic

/-! Reading JSON text. A text that is not JSON is refused with the rule it breaks and the offset
where it breaks it. Besides the standard, the reader takes the words `NaN`, `Infinity` and
`-Infinity` for numbers, and of a repeated property it keeps the last value at the first place.
-/

namespace SolidityAtlas.Json

/-- The rule that a text breaks. -/
inductive ReadCause where
  | byteOrderMark
  | expectedValue
  | expectedPropertyName
  | expectedColon
  | expectedComma
  | extraData
  | unterminatedString
  | controlCharacter
  | unknownEscape
  | unicodeEscape
  /-- An integer of more digits than are read. -/
  | oversizedInteger
  deriving DecidableEq, Repr

/-- A broken rule and where it is broken. -/
structure ReadError where
  cause : ReadCause
  offset : Nat
  deriving DecidableEq, Repr

/-- The words for a broken rule. -/
def ReadCause.message : ReadCause → String
  | .byteOrderMark => "Unexpected UTF-8 BOM (decode using utf-8-sig)"
  | .expectedValue => "Expecting value"
  | .expectedPropertyName => "Expecting property name enclosed in double quotes"
  | .expectedColon => "Expecting ':' delimiter"
  | .expectedComma => "Expecting ',' delimiter"
  | .extraData => "Extra data"
  | .unterminatedString => "Unterminated string starting at"
  | .controlCharacter => "Invalid control character at"
  | .unknownEscape => "Invalid \\escape"
  | .unicodeEscape => "Invalid \\uXXXX escape"
  | .oversizedInteger => "Oversized integer"

/-- The broken rule with the line and column, both from 1, of its offset in the text. -/
def ReadError.message (text : String) (error : ReadError) : String :=
  let passed := text.toList.take error.offset
  let line := passed.count '\n' + 1
  let column := (passed.reverse.takeWhile (· ≠ '\n')).length + 1
  error.cause.message ++ ": line " ++ toString line ++ " column " ++ toString column ++
    " (char " ++ toString error.offset ++ ")"

/-- A place in the text that is read. -/
structure Place where
  offset : Nat
  rest : List Char

/-- The place behind the JSON white space that starts here. -/
def skipBlanksFrom (offset : Nat) : List Char → Place
  | [] => ⟨offset, []⟩
  | c :: rest =>
      if c = ' ' ∨ c = '\t' ∨ c = '\n' ∨ c = '\r' then skipBlanksFrom (offset + 1) rest
      else ⟨offset, c :: rest⟩

/-- The place behind white space. -/
def Place.skipBlanks (place : Place) : Place :=
  skipBlanksFrom place.offset place.rest

/-- The value of a hexadecimal digit of either case. -/
def hexValue? (c : Char) : Option Nat :=
  if c.isDigit then some (c.toNat - 48)
  else if 'a' ≤ c ∧ c ≤ 'f' then some (c.toNat - 87)
  else if 'A' ≤ c ∧ c ≤ 'F' then some (c.toNat - 55)
  else none

/-- The code unit written by four hexadecimal digits. -/
def hexUnit? (a b c d : Char) : Option Nat := do
  return ((← hexValue? a) * 16 + (← hexValue? b)) * 256 + ((← hexValue? c) * 16 + (← hexValue? d))

/-- The character behind a backslash in the short escapes. -/
def shortEscape? (c : Char) : Option Char :=
  if c = '"' ∨ c = '\\' ∨ c = '/' then some c
  else if c = 'b' then some '\x08'
  else if c = 'f' then some '\x0c'
  else if c = 'n' then some '\n'
  else if c = 'r' then some '\r'
  else if c = 't' then some '\t'
  else none

/-- The character of two paired surrogate code units. -/
def pairedUnits (high low : Nat) : Char :=
  Char.ofNat (0x10000 + (high - 0xd800) * 0x400 + (low - 0xdc00))

/-- High surrogates open a pair. -/
def isHighUnit (unit : Nat) : Bool :=
  0xd800 ≤ unit && unit ≤ 0xdbff

/-- Low surrogates close a pair. -/
def isLowUnit (unit : Nat) : Bool :=
  0xdc00 ≤ unit && unit ≤ 0xdfff

/-- The characters read so far when the code unit `high` that waits for its partner gets none; a
lone surrogate is no character and becomes U+FFFD.
-/
def settle (high : Option Nat) (read : List Char) : List Char :=
  if high.isSome then '\ufffd' :: read else read

/-- The characters read so far and the waiting code unit after one more code unit. -/
def addUnit (high : Option Nat) (read : List Char) (unit : Nat) : Option Nat × List Char :=
  if isHighUnit unit then (some unit, settle high read)
  else if isLowUnit unit then
    match high with
    | some first => (none, pairedUnits first unit :: read)
    | none => (none, '\ufffd' :: read)
  else (none, Char.ofNat unit :: settle high read)

/-- Reads a string from behind its opening quote at `opening`; `read` holds its characters so far,
last first, and `high` a surrogate that waits for its partner.
-/
def readString (opening : Nat) (high : Option Nat) (read : List Char) (offset : Nat)
    : List Char → Except ReadError (String × Place)
  | [] => .error ⟨.unterminatedString, opening⟩
  | '"' :: rest => .ok (String.ofList (settle high read).reverse, ⟨offset + 1, rest⟩)
  | ['\\'] => .error ⟨.unterminatedString, opening⟩
  | '\\' :: 'u' :: a :: b :: c :: d :: next :: rest =>
      match hexUnit? a b c d with
      | none => .error ⟨.unicodeEscape, offset + 1⟩
      | some unit =>
          let (high, read) := addUnit high read unit
          readString opening high read (offset + 6) (next :: rest)
  | '\\' :: 'u' :: _ => .error ⟨.unicodeEscape, offset + 1⟩
  | '\\' :: c :: rest =>
      match shortEscape? c with
      | none => .error ⟨.unknownEscape, offset⟩
      | some meant => readString opening none (meant :: settle high read) (offset + 2) rest
  | c :: rest =>
      if c.toNat < 0x20 then .error ⟨.controlCharacter, offset⟩
      else readString opening none (c :: settle high read) (offset + 1) rest

/-- The value of a digit string. -/
def digitsValue (digits : List Char) : Nat :=
  digits.foldl (fun value c => value * 10 + (c.toNat - 48)) 0

/-- The digits at the start of a text, and what follows them. -/
def digitSpan (text : List Char) : List Char × List Char :=
  (text.takeWhile Char.isDigit, text.dropWhile Char.isDigit)

/-- The digits of a whole part, which is zero or does not start with zero. -/
def wholePart? : List Char → Option (List Char × List Char)
  | '0' :: rest => some (['0'], rest)
  | c :: rest => if c.isDigit then some (digitSpan (c :: rest)) else none
  | [] => none

/-- The digits that an integer may have. -/
def integerDigitLimit : Nat :=
  4300

/-- The digits behind a decimal point; a point without digits is left alone. -/
def fractionPart : List Char → List Char × List Char
  | '.' :: rest =>
      let (digits, more) := digitSpan rest
      if digits.isEmpty then ([], '.' :: rest) else (digits, more)
  | text => ([], text)

/-- The exponent and how long it is written; an exponent mark without digits is left alone. -/
def exponentPart : List Char → Option (Int × Nat) × List Char
  | c :: rest =>
      if c = 'e' ∨ c = 'E' then
        let (sign, unsigned) : List Char × List Char :=
          match rest with
          | '+' :: more => (['+'], more)
          | '-' :: more => (['-'], more)
          | more => ([], more)
        let (digits, more) := digitSpan unsigned
        if digits.isEmpty then (none, c :: rest)
        else
          let size : Int := digitsValue digits
          (some (if sign = ['-'] then -size else size, 1 + sign.length + digits.length), more)
      else (none, c :: rest)
  | [] => (none, [])

/-- Reads a number whose sign is already read; `place` is behind the sign. -/
def readNumber (opening : Nat) (negative : Bool) (place : Place)
    : Except ReadError (Json × Place) :=
  match wholePart? place.rest with
  | none => .error ⟨.expectedValue, opening⟩
  | some (whole, afterWhole) =>
      let (fraction, afterFraction) := fractionPart afterWhole
      let (exponent, rest) := exponentPart afterFraction
      let length := whole.length + (if fraction.isEmpty then 0 else fraction.length + 1) +
        (exponent.map (·.2)).getD 0
      if fraction.isEmpty && exponent.isNone then
        if integerDigitLimit < whole.length then .error ⟨.oversizedInteger, opening⟩
        else
          let size : Int := digitsValue whole
          .ok (.int (if negative then -size else size), ⟨place.offset + length, rest⟩)
      else
        let size : Double :=
          .ofLiteral negative (digitsValue (whole ++ fraction))
            ((exponent.map (·.1)).getD 0 - fraction.length)
        .ok (.double size, ⟨place.offset + length, rest⟩)

/-- The words that stand for a value. -/
def words : List (String × Json) :=
  [("null", .null), ("true", .bool true), ("false", .bool false),
   ("NaN", .double .undefined), ("Infinity", .double (.infinite false)),
   ("-Infinity", .double (.infinite true))]

/-- The value of the word that starts here, and the place behind it. -/
def readWord? (place : Place) : Option (Json × Place) :=
  words.findSome? fun (word, value) =>
    if word.toList.isPrefixOf place.rest then
      some (value, ⟨place.offset + word.length, place.rest.drop word.length⟩)
    else none

mutual

/-- Reads one value. The fuel bounds the steps by twice the length of the text, as every two steps
pass at least one character.
-/
def readValue : Nat → Place → Except ReadError (Json × Place)
  | 0, place => .error ⟨.expectedValue, place.offset⟩
  | fuel + 1, place =>
      match readWord? place with
      | some found => .ok found
      | none =>
          match place.rest with
          | '"' :: rest => do
              let (value, place) ← readString place.offset none [] (place.offset + 1) rest
              return (.str value, place)
          | '[' :: rest =>
              let inside := Place.skipBlanks ⟨place.offset + 1, rest⟩
              match inside.rest with
              | ']' :: after => .ok (.arr [], ⟨inside.offset + 1, after⟩)
              | _ => readItems fuel [] inside
          | '\x7b' :: rest =>
              let inside := Place.skipBlanks ⟨place.offset + 1, rest⟩
              match inside.rest with
              | '\x7d' :: after => .ok (.obj [], ⟨inside.offset + 1, after⟩)
              | _ => readFields fuel [] inside
          | '-' :: rest => readNumber place.offset true ⟨place.offset + 1, rest⟩
          | _ => readNumber place.offset false place

/-- Reads the items of an array up to its closing bracket; `read` holds the items so far, last
first.
-/
def readItems : Nat → List Json → Place → Except ReadError (Json × Place)
  | 0, _, place => .error ⟨.expectedValue, place.offset⟩
  | fuel + 1, read, place => do
      let (item, place) ← readValue fuel place
      let place := place.skipBlanks
      match place.rest with
      | ']' :: rest => .ok (.arr (item :: read).reverse, ⟨place.offset + 1, rest⟩)
      | ',' :: rest => readItems fuel (item :: read) (Place.skipBlanks ⟨place.offset + 1, rest⟩)
      | _ => .error ⟨.expectedComma, place.offset⟩

/-- Reads the properties of an object up to its closing brace; `read` holds the properties so
far.
-/
def readFields : Nat → List (String × Json) → Place → Except ReadError (Json × Place)
  | 0, _, place => .error ⟨.expectedValue, place.offset⟩
  | fuel + 1, read, place =>
      match place.rest with
      | '"' :: rest => do
          let (name, place) ← readString place.offset none [] (place.offset + 1) rest
          let place := place.skipBlanks
          match place.rest with
          | ':' :: rest =>
              let (value, place) ← readValue fuel (Place.skipBlanks ⟨place.offset + 1, rest⟩)
              let read := putField name value read
              let place := place.skipBlanks
              match place.rest with
              | '\x7d' :: rest => .ok (.obj read, ⟨place.offset + 1, rest⟩)
              | ',' :: rest => readFields fuel read (Place.skipBlanks ⟨place.offset + 1, rest⟩)
              | _ => .error ⟨.expectedComma, place.offset⟩
          | _ => .error ⟨.expectedColon, place.offset⟩
      | _ => .error ⟨.expectedPropertyName, place.offset⟩

end

/-- The value that a whole text is, with white space around it. -/
def read (text : String) : Except ReadError Json := do
  let chars := text.toList
  if chars.head? = some '\ufeff' then
    .error ⟨.byteOrderMark, 0⟩
  else
    let (value, place) ← readValue (2 * chars.length + 2) (skipBlanksFrom 0 chars)
    let place := place.skipBlanks
    if place.rest.isEmpty then .ok value else .error ⟨.extraData, place.offset⟩

end SolidityAtlas.Json
