import SolidityAtlas.Vocabulary.Names
import SolidityAtlas.Vocabulary.Patterns
import SolidityAtlas.KeyedList

/-! The types of variables, as far as a piece of source tells them. Declarations count by pattern
and then by place, the last one winning; an assignment without a type only counts for a variable
that has no declaration, and a declaration with an initial value is looked at last.
-/

namespace SolidityAtlas

/-- A variable and the type that a match gives it, if both can be what they seem. -/
def typedVariable? (variableGroup typeGroup : Nat) (found : Match) : Option (String × String) :=
  let name := found.group variableGroup
  let typeName := found.group typeGroup
  if Vocabulary.isDeclarableType typeName && Vocabulary.canNameVariable name then
    some (name, typeName)
  else none

/-- The variables and types that a pattern finds in a text. -/
def typedVariables (pattern : Pattern) (variableGroup typeGroup : Nat) (text : List Char)
    : List (String × String) :=
  (pattern.findAll text).filterMap (typedVariable? variableGroup typeGroup)

/-- Puts the types of variables, replacing older ones. -/
def putTypes (types : OrderedMap String String) (found : List (String × String))
    : OrderedMap String String :=
  found.foldl (fun types entry => types.insert entry.1 entry.2) types

/-- Puts the types of variables that have none yet. -/
def putNewTypes (types : OrderedMap String String) (found : List (String × String))
    : OrderedMap String String :=
  found.foldl (fun types entry => types.insertNew entry.1 entry.2) types

/-- The types of the variables that a piece of source declares or assigns. -/
def variableTypes (source : String) : OrderedMap String String :=
  let text := Text.collapseSpaces false source.toList
  let declared :=
    typedVariables Vocabulary.variableDeclaration 2 1 text ++
      typedVariables Vocabulary.arrayDeclaration 2 1 text ++
      typedVariables Vocabulary.mappingDeclaration 2 1 text
  let assigned := typedVariables Vocabulary.untypedAssignment 1 2 text
  let initialised := typedVariables Vocabulary.typedAssignment 2 1 text
  putTypes (putNewTypes (putTypes .empty declared) assigned) initialised

end SolidityAtlas
