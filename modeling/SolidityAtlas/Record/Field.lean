import SolidityAtlas.Json.Reader
import SolidityAtlas.Record.Checked

/-! Reading the fields of a record from JSON. Strings, lists and records are taken as they are;
integers are also taken from whole numbers of double precision, truth values and digits in a string.
-/

namespace SolidityAtlas

/-- A check that turns a JSON value into a value of a type. -/
abbrev Reader (α : Type) : Type :=
  Json → Checked α

namespace Reader

variable {α : Type}

/-- A string. -/
def string : Reader String
  | .str value => .valid value
  | _ => .fault .notString

/-- A number without its leading zeros, among which underscores may stand behind the first one. Of
nothing but zeros one is left. A minus sign may also follow the zeros.
-/
def withoutLeadingZeros (text : List Char) : Option (List Char) :=
  let fillers := text.takeWhile fun c => c = '0' || c = '_'
  match fillers, text.drop fillers.length with
  | [], rest => some rest
  | '_' :: _, _ => none
  | _, [] => if fillers.getLast? = some '0' then some ['0'] else none
  | _, '.' :: rest => if fillers.getLast? = some '0' then some ('0' :: '.' :: rest) else none
  | _, c :: rest => if c.isDigit || c = '-' then some (c :: rest) else none

/-- A number without a fraction of zeros. -/
def withoutFraction (text : List Char) : List Char :=
  let whole := text.takeWhile (· ≠ '.')
  match text.drop whole.length with
  | '.' :: '0' :: zeros => if zeros.all (· = '0') then whole else text
  | _ => text

/-- A number without single underscores between its characters. -/
def withoutUnderscores (text : List Char) : Option (List Char) :=
  let groups := Text.pieces '_' text
  if groups.all fun group => !group.isEmpty then some groups.flatten else none

/-- A number without what may be left out behind its sign: leading zeros, a fraction of zeros and
underscores.
-/
def plainNumber? (text : List Char) : Option (List Char) := do
  withoutUnderscores (withoutFraction (← withoutLeadingZeros text))

/-- An integer in a text without what may be left out, a plus sign included. One sign is enough. -/
def plainInteger? : List Char → Option (List Char)
  | '+' :: '-' :: _ | '-' :: '-' :: _ | '-' :: '+' :: _ => none
  | '+' :: rest => plainNumber? rest
  | '-' :: rest => (plainNumber? rest).map ('-' :: ·)
  | text => plainNumber? text

/-- An integer that is written without anything that may be left out. Its digits are counted before
it is asked what follows them.
-/
def integerOfPlain (text : List Char) : Checked Int :=
  let (isNegative, digits) : Bool × List Char :=
    match text with
    | '-' :: rest => (true, rest)
    | _ => (false, text)
  match Json.wholePart? digits with
  | none => .fault .unreadableInteger
  | some (whole, rest) =>
      if Json.integerDigitLimit < whole.length then .fault .oversizedInteger
      else if !rest.isEmpty then .fault .unreadableInteger
      else
        let size : Int := Json.digitsValue whole
        .valid (if isNegative then -size else size)

/-- An integer in a string: a sign or none, and digits with single underscores between them or a
fraction of zeros behind them. White space may stand around it. A string that starts with too many
digits is refused as such, whatever follows them.
-/
def integerInText (text : List Char) : Checked Int :=
  match integerOfPlain text with
  | .faulty [⟨[], .oversizedInteger⟩] => .fault .oversizedInteger
  | _ =>
      match plainInteger? (Text.trimBy Text.isBlank text) with
      | some plain => integerOfPlain plain
      | none => .fault .unreadableInteger

/-- Whether an integer takes 64 bits with its sign. -/
def fitsWord (value : Int) : Bool :=
  -0x8000000000000000 ≤ value && value < 0x8000000000000000

/-- Whether the magnitude of an integer takes at most 63 bits. -/
def isShort (value : Int) : Bool :=
  value.natAbs < 0x8000000000000000

/-- An integer, or what stands for one. A number with a fraction or an exponent has to be whole and
its magnitude within 63 bits.
-/
def integer : Reader Int
  | .int value => .valid value
  | .bool value => .valid (if value then 1 else 0)
  | .double (.finite negative size) =>
      match (Double.finite negative size).toInt? with
      | none => .fault .fractionalInteger
      | some value => if isShort value then .valid value else .fault .oversizedInteger
  | .double _ => .fault .infiniteInteger
  | .str text => integerInText text.toList
  | _ => .fault .notInteger

/-- Strings that stand for true, in lower case. -/
def trueWords : List String :=
  ["1", "on", "t", "true", "y", "yes"]

/-- Strings that stand for false, in lower case. -/
def falseWords : List String :=
  ["0", "off", "f", "false", "n", "no"]

/-- The truth value that an integer stands for; integers beyond 64 bits do not even look like
one.
-/
def booleanOfInteger (value : Int) : Checked Bool :=
  if value = 0 then .valid false
  else if value = 1 then .valid true
  else if fitsWord value then .fault .unreadableBoolean
  else .fault .notBoolean

/-- A truth value, or what stands for one. -/
def boolean : Reader Bool
  | .bool value => .valid value
  | .int value => booleanOfInteger value
  | .str text =>
      let lower := String.ofList (text.toList.map Char.toLower)
      if lower ∈ trueWords then .valid true
      else if lower ∈ falseWords then .valid false
      else .fault .unreadableBoolean
  | .double value =>
      match value.toInt?.filter isShort with
      | some whole => booleanOfInteger whole
      | none => .fault .notBoolean
  | _ => .fault .notBoolean

/-- A value, or null for none. -/
def optional (reader : Reader α) : Reader (Option α)
  | .null => .valid none
  | value => some <$> reader value

/-- A list of values of one form. -/
def list (reader : Reader α) : Reader (List α)
  | .arr items => Checked.items reader 0 items
  | _ => .fault .notList

/-- One of a set of words, by the value each stands for. -/
def word (words : List (String × α)) : Reader α
  | .str text =>
      match words.lookup text with
      | some value => .valid value
      | none => .fault .unknownWord
  | _ => .fault .unknownWord

/-- A record whose fields are checked by `fields`. -/
def record (fields : Reader α) : Reader α
  | .obj properties => fields (.obj properties)
  | _ => .fault .notRecord

/-- A field that must be there. -/
def required (name : String) (reader : Reader α) (whole : Json) : Checked α :=
  Checked.inside name <|
    match whole.field? name with
    | some value => reader value
    | none => .fault .missing

/-- A field with a value of its own where it is missing. -/
def withDefault (name : String) (default : α) (reader : Reader α) (whole : Json) : Checked α :=
  match whole.field? name with
  | some value => Checked.inside name (reader value)
  | none => .valid default

end Reader

end SolidityAtlas
