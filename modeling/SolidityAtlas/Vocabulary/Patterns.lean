import SolidityAtlas.Pattern.Scan

/-! The shapes that names take in Solidity source. Type names are capitalised ASCII identifiers,
names of functions and variables start with a lower-case letter or an underscore.
-/

namespace SolidityAtlas.Vocabulary

open Pattern

/-- A capitalised identifier, not bounded on either side. -/
def capitalName : Pattern :=
  sequence [.one Char.isUpper, .many Text.isIdentifierPart]

/-- An identifier that starts in lower case or with an underscore, not bounded on either side. -/
def lowerName : Pattern :=
  sequence [.one Text.isLowerStart, .many Text.isIdentifierPart]

/-- One character out of a text. -/
def oneIn (text : String) : Pattern :=
  .one fun c => text.toList.contains c

/-- `mapping(key => value)`, its key (1) and its value (2). -/
def mappingType : Pattern :=
  sequence
    [literal "mapping", spaces, char '(', spaces, .capture 1 (oneOrMoreLazy Text.isInline), spaces,
     literal "=>", spaces, .capture 2 (oneOrMore Text.isInline), spaces, char ')']

/-- `element[length]`, its element (1). -/
def arrayType : Pattern :=
  sequence
    [.textStart, .capture 1 (oneOrMoreLazy Text.isInline), spaces, char '[',
     .many Text.isInline, char ']', .textEnd]

/-- The data locations, each followed by a gap, or none. -/
def dataLocation : Pattern :=
  optional
    (oneOf
      [sequence [literal "memory", gap], sequence [literal "storage", gap],
       sequence [literal "calldata", gap]])

/-- `Pool memory pool`. -/
def declarationWithLocation : Pattern :=
  sequence
    [.wordEdge, .capture 1 capitalName, gap,
     oneOf [literal "memory", literal "storage", literal "calldata"], gap, oneOrMore Text.isWord]

/-- `Pool pool` in front of `=`, `;`, `,` or `)`. -/
def declaration : Pattern :=
  sequence
    [.wordEdge, .capture 1 capitalName, gap, oneOrMore Text.isWord, spaces, oneIn "=;,)"]

/-- `Pool(`. -/
def instantiation : Pattern :=
  sequence [.wordEdge, .capture 1 capitalName, spaces, char '(']

/-- `Strategy.NONE`. -/
def memberAccess : Pattern :=
  sequence
    [.wordEdge, .capture 1 capitalName, char '.',
     .capture 2 (sequence [.one Char.isUpper, .many Text.isConstantPart]), .wordEdge]

/-- `== Strategy.` (1) or `Strategy.member` in front of a comparison or assignment (2). -/
def comparison : Pattern :=
  oneOf
    [sequence [literal "==", spaces, .capture 1 capitalName, char '.'],
     sequence
       [.wordEdge, .capture 2 capitalName, char '.', oneOrMore Text.isWord, spaces, oneIn "=!<>"]]

/-- Any capitalised identifier. -/
def capitalWord : Pattern :=
  sequence [.wordEdge, .capture 1 capitalName, .wordEdge]

/-- Where type names are looked for in the body of a function, in this order. -/
def typeShapes : List (String × Pattern) :=
  [("declaration_with_location", declarationWithLocation), ("declaration", declaration),
   ("instantiation", instantiation), ("member_access", memberAccess), ("comparison", comparison),
   ("generic", capitalWord)]

/-- What stands in front of a member of something else. -/
def isMemberLead (c : Char) : Bool :=
  c = '.' || Text.isWord c

/-- `name(`, not the member of anything. -/
def directCall : Pattern :=
  sequence [.notAfter isMemberLead, .capture 1 lowerName, spaces, char '(']

/-- `this.name(`. -/
def thisCall : Pattern :=
  sequence [literal "this.", .capture 1 lowerName, spaces, char '(']

/-- `_name(`, not the member of anything. -/
def underscoreCall : Pattern :=
  sequence
    [.notAfter isMemberLead, .capture 1 (sequence [char '_', oneOrMore Text.isIdentifierPart]),
     spaces, char '(']

/-- Where calls are looked for in a line, in this order. -/
def callShapes : List (String × Pattern) :=
  [("direct", directCall), ("this", thisCall), ("internal", underscoreCall)]

/-- Any ASCII identifier that is a whole word. -/
def identifier : Pattern :=
  sequence
    [.wordEdge,
     .capture 1 (sequence [.one Text.isIdentifierStart, .many Text.isIdentifierPart]), .wordEdge]

/-- The visibility of a mapping, followed by a gap, or none. -/
def mappingVisibility : Pattern :=
  optional
    (oneOf
      [sequence [literal "public", gap], sequence [literal "private", gap],
       sequence [literal "internal", gap]])

/-- `Pool memory pool`, its type (1) and its variable (2). -/
def variableDeclaration : Pattern :=
  sequence
    [.wordEdge, .capture 1 capitalName, gap, dataLocation, .capture 2 lowerName, .wordEdge]

/-- `Pool[] memory pools`, its type (1) and its variable (2). -/
def arrayDeclaration : Pattern :=
  sequence
    [.wordEdge, .capture 1 capitalName, spaces, char '[', spaces, char ']', spaces, dataLocation,
     .capture 2 lowerName, .wordEdge]

/-- `mapping(… => Pool) public pools`, its value type (1) and its variable (2). -/
def mappingDeclaration : Pattern :=
  sequence
    [literal "mapping", spaces, char '(', .many (fun c => c ≠ ')'), literal "=>", spaces,
     .capture 1 capitalName, spaces, char ')', spaces, mappingVisibility, .capture 2 lowerName,
     .wordEdge]

/-- `pool = Pool(`, its variable (1) and its type (2). -/
def untypedAssignment : Pattern :=
  sequence
    [.wordEdge, .capture 1 lowerName, spaces, char '=', spaces, .capture 2 capitalName, spaces,
     char '(']

/-- `Pool pool =`, its type (1) and its variable (2). -/
def typedAssignment : Pattern :=
  sequence
    [.wordEdge, .capture 1 capitalName, gap,
     .notAhead
       (oneOf
         [sequence [literal "memory", .wordEdge], sequence [literal "storage", .wordEdge],
          sequence [literal "calldata", .wordEdge]]),
     .capture 2 lowerName, spaces, char '=']

/-- Where declarations of variables are looked for, in this order. -/
def declarationShapes : List (String × Pattern) :=
  [("declaration", variableDeclaration), ("array_declaration", arrayDeclaration),
   ("mapping_value", mappingDeclaration), ("assignment", untypedAssignment),
   ("typed_assignment", typedAssignment)]

/-- A given name as a whole word. -/
def wholeWord (name : String) : Pattern :=
  sequence [.wordEdge, literal name, .wordEdge]

end SolidityAtlas.Vocabulary
