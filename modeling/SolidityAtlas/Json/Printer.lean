import SolidityAtlas.Json.Basic

/-! Writing JSON text, in one line or indented by two blanks a level. The text is ASCII: every other
character is escaped by its UTF-16 code units.
-/

namespace SolidityAtlas.Json

/-- The UTF-16 code units of a character. -/
def codeUnits (c : Char) : List Nat :=
  if c.toNat < 0x10000 then [c.toNat]
  else [0xd800 + (c.toNat - 0x10000) / 0x400, 0xdc00 + (c.toNat - 0x10000) % 0x400]

/-- A character inside a JSON string. -/
def escaped (c : Char) : List Char :=
  if c = '"' ∨ c = '\\' then ['\\', c]
  else if c = '\n' then ['\\', 'n']
  else if c = '\r' then ['\\', 'r']
  else if c = '\t' then ['\\', 't']
  else if c = '\x08' then ['\\', 'b']
  else if c = '\x0c' then ['\\', 'f']
  else if 0x20 ≤ c.toNat ∧ c.toNat ≤ 0x7e then [c]
  else (codeUnits c).flatMap fun unit => '\\' :: 'u' :: Text.hexDigits 4 unit

/-- A JSON string. -/
def stringText (value : String) : String :=
  String.ofList ('"' :: value.toList.flatMap escaped ++ ['"'])

/-- A double-precision number in JSON, or the word for a value that JSON has no number for. -/
def doubleText : Double → String
  | .finite negative size => (Double.finite negative size).text
  | .infinite negative => if negative then "-Infinity" else "Infinity"
  | .undefined => "NaN"

/-- The text of a value that holds no others. -/
def scalarText : Json → String
  | .null => "null"
  | .bool value => if value then "true" else "false"
  | .int value => toString value
  | .double value => doubleText value
  | .str value => stringText value
  | .arr _ => "[]"
  | .obj _ => "\x7b\x7d"

mutual

/-- A value in one line. -/
def compact : Json → String
  | .arr items => "[" ++ ",".intercalate (compactItems items) ++ "]"
  | .obj fields => "\x7b" ++ ",".intercalate (compactFields fields) ++ "\x7d"
  | value => scalarText value

/-- The items of an array, each in one line. -/
def compactItems : List Json → List String
  | [] => []
  | item :: rest => compact item :: compactItems rest

/-- The properties of an object, each in one line. -/
def compactFields : List (String × Json) → List String
  | [] => []
  | (name, value) :: rest => (stringText name ++ ":" ++ compact value) :: compactFields rest

end

/-- A line break and the indentation of a level. -/
def lineBreak (level : Nat) : String :=
  String.ofList ('\n' :: List.replicate (2 * level) ' ')

mutual

/-- A value with one item or property a line, indented below `level`; empty ones stay in line. -/
def indented (level : Nat) : Json → String
  | .arr (item :: rest) =>
      "[" ++ lineBreak (level + 1) ++
        ("," ++ lineBreak (level + 1)).intercalate (indentedItems (level + 1) (item :: rest)) ++
        lineBreak level ++ "]"
  | .obj (field :: rest) =>
      "\x7b" ++ lineBreak (level + 1) ++
        ("," ++ lineBreak (level + 1)).intercalate (indentedFields (level + 1) (field :: rest)) ++
        lineBreak level ++ "\x7d"
  | value => scalarText value

/-- The items of an array, each indented at `level`. -/
def indentedItems (level : Nat) : List Json → List String
  | [] => []
  | item :: rest => indented level item :: indentedItems level rest

/-- The properties of an object, each indented at `level`. -/
def indentedFields (level : Nat) : List (String × Json) → List String
  | [] => []
  | (name, value) :: rest =>
      (stringText name ++ ": " ++ indented level value) :: indentedFields level rest

end

/-- A value as indented text. -/
def pretty (value : Json) : String :=
  indented 0 value

end SolidityAtlas.Json
