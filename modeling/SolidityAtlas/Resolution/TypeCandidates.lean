import SolidityAtlas.Settings
import SolidityAtlas.Vocabulary.Names
import SolidityAtlas.Declaration.Basic
import SolidityAtlas.KeyedList

/-! Names in a function that may be types of the workspace. They come from the types of its
parameters and from scans of its source, pass the exclusion tables, and are listed once for each
local name.
-/

namespace SolidityAtlas

/-- The names at the leaves of a type name, with mappings and arrays unwrapped. Unwrapping shortens
the name, so its length bounds the depth.
-/
def unwrapType : Nat → List Char → List String
  | 0, _ => []
  | fuel + 1, name =>
      let name := Text.trim name
      if name.isEmpty then []
      else
        match Vocabulary.mappingType.matchAt (.start name) with
        | some found =>
            unwrapType fuel (found.group 1).toList ++ unwrapType fuel (found.group 2).toList
        | none =>
            match Vocabulary.arrayType.matchAt (.start name) with
            | some found => unwrapType fuel (found.group 1).toList
            | none => [String.ofList name]

/-- The names that a type name is made of. -/
def leafNames (name : String) : List String :=
  unwrapType (name.toList.length + 1) name.toList

/-- Whether a name may be the name of a type of the workspace. The settings are asked only about
names that are not excluded by themselves, and about interfaces last.
-/
def isTypeCandidate (settings : Settings) (name : String) : Outcome Bool := do
  if Vocabulary.isElementary name || Vocabulary.reservedNames.contains name then
    return false
  else if (← settings.minTypeNameLength).exceeds name.toList.length then
    return false
  else
    return !((← settings.skipInterfaceTypes) && Vocabulary.isInterfaceName name)

/-- Whether a name starts with an upper-case letter. -/
def isCapitalised (name : String) : Bool :=
  name.toList.head?.any Text.isUppercase

/-- The capitalised names in the types of parameters and return values. -/
def declaredTypeNames (function : FunctionDecl) : List String :=
  ((function.parameters ++ function.returns).flatMap fun parameter =>
    leafNames parameter.typeName).filter isCapitalised

/-- The texts that a pattern captures first in a text. -/
def capturedNames (pattern : Pattern) (text : List Char) : List String :=
  (pattern.findAll text).map (·.group 1)

/-- The name in a comparison, which is captured on either side. -/
def comparedName (found : Match) : String :=
  (found.group? 1).getD (found.group 2)

/-- Names in capitals are constants or enum members, unless they start like an interface. -/
def isConstantName (name : String) : Bool :=
  name.toList.all (fun c => !c.isLower) && name.toList.head? ≠ some 'I'

/-- The capitalised names in source text, shape by shape. -/
def mentionedTypeNames (source : List Char) : List String :=
  capturedNames Vocabulary.declarationWithLocation source ++
    capturedNames Vocabulary.declaration source ++
    capturedNames Vocabulary.instantiation source ++
    capturedNames Vocabulary.memberAccess source ++
    (Vocabulary.comparison.findAll source).map comparedName ++
    (capturedNames Vocabulary.capitalWord source).filter fun name => !isConstantName name

/-- The names in a function that may be types, the first of each local name. -/
def candidateTypes (settings : Settings) (function : FunctionDecl) : Outcome (List String) := do
  let names := declaredTypeNames function ++ mentionedTypeNames function.source.toList
  return distinctBy Text.unqualified (← names.filterM (isTypeCandidate settings))

end SolidityAtlas
