import SolidityAtlas.Json.Basic
import SolidityAtlas.Record.Checked

/-! Why a request fails. Each constructor is a cause; the wording of the causes that have one for
users is `Failure.message?`.
-/

namespace SolidityAtlas

/-- The records that a value is checked against. -/
inductive RecordKind where
  | position
  | location
  | parameter
  | function
  | structMember
  | struct
  | enum
  | stateVariable
  | importDirective
  | contract
  | outline
  | analysis
  | lookup
  deriving DecidableEq, Repr

/-- What is wrong with the settings, the tables or a request for a lookup. -/
inductive ConfigFault where
  /-- Kinds of node that are leaves and have child slots. -/
  | overlappingKinds (kinds : List String)
  /-- A kind of node whose child slots are no list of names. -/
  | badChildSlots (kind : String)
  /-- The least length of a type name is no positive integer. -/
  | minTypeNameLength
  /-- An entry of a pattern table that is no pattern. -/
  | notPattern (table key : String)
  /-- The depth limit of inheritance chains is no positive integer. -/
  | maxChainDepth
  /-- A lookup of a kind that is none. -/
  | unknownLookupKind (kind : Json)

/-- Why a request fails. -/
inductive Failure where
  /-- A file has no usable syntax tree. -/
  | parse (path message : String)
  /-- A file is not part of the workspace. -/
  | notIndexed (path : String)
  /-- No function encloses a position; its line counts from 0. -/
  | notInFunction (path : String) (line column : Int)
  /-- The settings or tables do not hold together. -/
  | config (fault : ConfigFault)
  /-- A value does not have the form of a record. -/
  | invalid (record : RecordKind) (faults : List Fault)
  /-- A property was asked of a value that has none. -/
  | noProperties
  /-- A value was used as a list, a bound or a number that it is not. -/
  | unusable
  /-- A line was asked for that the text does not have. -/
  | noSuchLine
  /-- A setting was asked for that the settings do not have. -/
  | noSetting (name : String)
  /-- A number is written that is not read. -/
  | badNumber
  /-- The tags of a marked-up text do not match, or one of them has parameters that mean nothing. -/
  | badMarkup

/-- The words for a fault of the settings. -/
def ConfigFault.message : ConfigFault → String
  | .overlappingKinds kinds =>
      "Node kinds declared both as leaves and with children: " ++ ", ".intercalate kinds
  | .badChildSlots kind => "Node kind '" ++ kind ++ "' has an invalid child slot list"
  | .minTypeNameLength =>
      "RESOLUTION_CONFIG['min_type_name_length'] must be a positive integer"
  | .notPattern table key => table ++ "['" ++ key ++ "'] is not a compiled regex pattern"
  | .maxChainDepth => "INHERITANCE_CONFIG['max_chain_depth'] must be a positive integer"
  | .unknownLookupKind kind =>
      "Unknown lookup kind '" ++ kind.text ++
        "', expected one of struct, enum, type, function, statevar"

/-- The words for a failure that users are told about; the others are faults of the input data. -/
def Failure.message? : Failure → Option String
  | .parse path message => some ("Failed to parse " ++ path ++ ": " ++ message)
  | .notIndexed path => some ("File is not part of the workspace index: " ++ path)
  | .notInFunction path line column =>
      some ("No function definition encloses " ++ path ++ ":" ++ toString line ++ ":" ++
        toString column)
  | .config fault => some fault.message
  | .invalid _ _ | .noProperties | .unusable | .noSuchLine | .noSetting _ | .badNumber
  | .badMarkup => none

/-- A computation that may fail. -/
abbrev Outcome (α : Type) : Type :=
  Except Failure α

/-- A checked record as an outcome. -/
def Checked.outcome {α : Type} (record : RecordKind) : Checked α → Outcome α
  | .valid value => .ok value
  | .faulty faults => .error (.invalid record faults)

end SolidityAtlas
