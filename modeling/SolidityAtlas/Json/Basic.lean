import SolidityAtlas.Json.Double
import SolidityAtlas.Text.Quoted
import SolidityAtlas.KeyedList

/-! JSON values with the properties of an object in order. Syntax trees, settings and requests are
all given as such values, so this is also where a value of the wrong shape is first looked at.
-/

namespace SolidityAtlas

/-- A JSON value. Integers are told apart from numbers
with a fraction or an exponent, and properties keep their order.
-/
inductive Json where
  | null
  | bool (value : Bool)
  | int (value : Int)
  | double (value : Double)
  | str (value : String)
  | arr (items : List Json)
  | obj (fields : List (String × Json))
  deriving Inhabited

namespace Json

/-- The property of an object under a name; other values have no properties. -/
def field? (value : Json) (name : String) : Option Json :=
  match value with
  | .obj fields => fields.lookup name
  | _ => none

/-- The property of an object under a name, null where it is missing. -/
def field (value : Json) (name : String) : Json :=
  (value.field? name).getD .null

/-- Objects are the values that have properties. -/
def isObject : Json → Bool
  | .obj _ => true
  | _ => false

/-- The string a value is, if it is one. -/
def string? : Json → Option String
  | .str value => some value
  | _ => none

/-- Null, false, zero and the empty values count as nothing. -/
def isNothing : Json → Bool
  | .null => true
  | .bool value => !value
  | .int value => value == 0
  | .double value => value.isZero
  | .str value => value == ""
  | .arr items => items.isEmpty
  | .obj fields => fields.isEmpty

/-- A value, or a replacement where it counts as nothing. -/
def orElse (value replacement : Json) : Json :=
  if value.isNothing then replacement else value

/-- An optional string, null where it is missing. -/
def ofOption : Option String → Json
  | none => .null
  | some text => .str text

mutual

/-- A value inside another one, with strings in quotes. -/
def nestedText : Json → String
  | .null => "None"
  | .bool value => if value then "True" else "False"
  | .int value => toString value
  | .double value => value.text
  | .str value => Text.quoted value
  | .arr items => "[" ++ ", ".intercalate (itemTexts items) ++ "]"
  | .obj fields => "\x7b" ++ ", ".intercalate (fieldTexts fields) ++ "\x7d"

/-- The texts of the items of an array. -/
def itemTexts : List Json → List String
  | [] => []
  | item :: rest => nestedText item :: itemTexts rest

/-- The texts of the properties of an object. -/
def fieldTexts : List (String × Json) → List String
  | [] => []
  | (name, value) :: rest => (Text.quoted name ++ ": " ++ nestedText value) :: fieldTexts rest

end

/-- The text a value is shown as inside a name or a message: a string stands for itself. -/
def text : Json → String
  | .str value => value
  | value => nestedText value

/-- Puts a property: an existing one is replaced where it stands, a new one comes last. -/
def putField (name : String) (value : Json) (fields : List (String × Json))
    : List (String × Json) :=
  putItem (fun field => field.1) (name, value) fields

end Json

end SolidityAtlas
