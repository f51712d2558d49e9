import SolidityAtlas.Failure
import SolidityAtlas.SyntaxTree.Kind
import SolidityAtlas.Vocabulary.Patterns

/-! Settings of the resolvers, and the check of the tables they work with. Settings come in as
tables of JSON values; a run of the resolvers uses the record that the tables stand for. A setting
that is missing or of no use only fails what it is needed for.
-/

namespace SolidityAtlas

/-- A number that counts are held against. -/
inductive Bound where
  | int (value : Int)
  | double (value : Double)
  deriving DecidableEq, Repr

namespace Bound

/-- Whether a count is below the bound. -/
def exceeds (bound : Bound) (count : Int) : Bool :=
  match bound with
  | .int value => count < value
  | .double value => value.greaterThanInt count

/-- Whether a count is above the bound. -/
def isExceededBy (bound : Bound) (count : Int) : Bool :=
  match bound with
  | .int value => value < count
  | .double value => value.lessThanInt count

end Bound

/-- What the resolvers can be told, or why they are not told. -/
structure Settings where
  /-- Names shorter than this are never type names. -/
  minTypeNameLength : Outcome Bound
  /-- Whether interfaces are never offered as types. -/
  skipInterfaceTypes : Outcome Bool
  /-- Whether a function is not listed among its own calls. -/
  excludeSelfCalls : Outcome Bool
  /-- Bases further away than this are left out of an inheritance chain. -/
  maxChainDepth : Outcome Bound

/-- The tables that settings are kept in. -/
structure SettingTables where
  resolution : List (String × Json)
  inheritance : List (String × Json)

namespace SettingTables

/-- The tables of the default settings. -/
def default : SettingTables :=
  { resolution :=
      [("min_type_name_length", .int 2), ("skip_interface_types", .bool true),
       ("exclude_self_calls", .bool true)]
    inheritance := [("max_chain_depth", .int 50)] }

/-- Puts the entries of one table into another. -/
def putAll (table entries : List (String × Json)) : List (String × Json) :=
  entries.foldl (fun table entry => Json.putField entry.1 entry.2 table) table

/-- Tables with some entries replaced or added. -/
def override (tables : SettingTables) (resolution inheritance : List (String × Json))
    : SettingTables :=
  { resolution := putAll tables.resolution resolution
    inheritance := putAll tables.inheritance inheritance }

/-- Tables without the entries of some names. -/
def remove (tables : SettingTables) (names : List String) : SettingTables :=
  { resolution := tables.resolution.filter fun entry => entry.1 ∉ names
    inheritance := tables.inheritance.filter fun entry => entry.1 ∉ names }

/-- An integer in a table; truth values count as 1 and 0. -/
def integer? (table : List (String × Json)) (name : String) : Option Int :=
  match table.lookup name with
  | some (.int value) => some value
  | some (.bool value) => some (if value then 1 else 0)
  | _ => none

/-- A setting that has to be a number. -/
def bound (table : List (String × Json)) (name : String) : Outcome Bound :=
  match table.lookup name with
  | some (.int value) => .ok (.int value)
  | some (.bool value) => .ok (.int (if value then 1 else 0))
  | some (.double value) => .ok (.double value)
  | some _ => .error .unusable
  | none => .error (.noSetting name)

/-- A setting that is on unless it counts as nothing. -/
def switch (table : List (String × Json)) (name : String) : Outcome Bool :=
  match table.lookup name with
  | some value => .ok (!value.isNothing)
  | none => .error (.noSetting name)

/-- The settings that the tables stand for. -/
def settings (tables : SettingTables) : Settings :=
  { minTypeNameLength := bound tables.resolution "min_type_name_length"
    skipInterfaceTypes := switch tables.resolution "skip_interface_types"
    excludeSelfCalls := switch tables.resolution "exclude_self_calls"
    maxChainDepth := bound tables.inheritance "max_chain_depth" }

end SettingTables

/-- An entry of a pattern table as it is checked. -/
inductive PatternEntry where
  | pattern (value : Pattern)
  | other (value : Json)

/-- Whether an entry is a pattern. -/
def PatternEntry.isPattern : PatternEntry → Bool
  | .pattern _ => true
  | .other _ => false

/-- A pattern table as it is checked. -/
structure PatternTable where
  name : String
  entries : List (String × PatternEntry)

/-- The pattern tables of the resolvers. -/
def patternTables : List PatternTable :=
  let table (name : String) (patterns : List (String × Pattern)) : PatternTable :=
    { name := name, entries := patterns.map fun (key, value) => (key, .pattern value) }
  [table "TYPE_PATTERNS" Vocabulary.typeShapes,
   table "CALL_PATTERNS" Vocabulary.callShapes,
   table "VARIABLE_TYPE_PATTERNS" Vocabulary.declarationShapes]

/-- Puts values that are no patterns into the table of a name. -/
def PatternTable.put (tables : List PatternTable) (name : String) (entries : List (String × Json))
    : List PatternTable :=
  tables.map fun table =>
    if table.name = name then
      { table with
        entries := entries.foldl
          (fun table (key, value) => putItem (fun entry => entry.1) (key, .other value) table)
          table.entries }
    else table

/-- The table of child slots as it is checked, each list of slots a JSON array. -/
def childSlotTable : List (String × Json) :=
  childSlots.map fun (kind, slots) => (kind, .arr (slots.map .str))

/-- Whether a value lists child slots: an array of names that are not empty. -/
def isSlotList : Json → Bool
  | .arr items => items.all fun item => item.string?.any (· ≠ "")
  | _ => false

/-- Distinct names in code-point order. -/
def sortedNames (names : List String) : List String :=
  names.eraseDups.mergeSort (fun a b => a ≤ b)

/-- Checks the node tables: no kind is both a leaf and a parent, and every list of slots lists
slots.
-/
def checkNodeTables (leaves : List String) (slots : List (String × Json)) : Outcome Unit :=
  let overlap := leaves.filter fun kind => (slots.lookup kind).isSome
  if overlap ≠ [] then .error (.config (.overlappingKinds (sortedNames overlap)))
  else
    match slots.find? fun entry => !isSlotList entry.2 with
    | some (kind, _) => .error (.config (.badChildSlots kind))
    | none => .ok ()

/-- Whether a table has a positive integer under a name. -/
def hasPositive (table : List (String × Json)) (name : String) : Bool :=
  match SettingTables.integer? table name with
  | some value => 1 ≤ value
  | none => false

/-- The first entry of the pattern tables that is no pattern, as its table and its key. -/
def firstNonPattern (tables : List PatternTable) : Option (String × String) :=
  tables.findSome? fun table =>
    (table.entries.find? fun entry => !entry.2.isPattern).map fun entry => (table.name, entry.1)

/-- Checks the settings and the pattern tables, and reports the first fault. -/
def checkResolution (settings : SettingTables) (tables : List PatternTable) : Outcome Unit :=
  if !hasPositive settings.resolution "min_type_name_length" then
    .error (.config .minTypeNameLength)
  else
    match firstNonPattern tables with
    | some (table, key) => .error (.config (.notPattern table key))
    | none =>
        if !hasPositive settings.inheritance "max_chain_depth" then
          .error (.config .maxChainDepth)
        else .ok ()

end SolidityAtlas
