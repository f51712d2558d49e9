import SolidityAtlas.Json.Reader
import SolidityAtlas.Text.CharacterNames
import SolidityAtlas.Text.Utf8

/-! Literals: numbers, quoted texts, a few constants, and tuples, sets and dictionaries of literals.
A tag may carry one, which only has to be well formed.
-/

namespace SolidityAtlas.Literal

/-- The parts that a literal is written with. -/
inductive Token where
  | number (imaginary : Bool)
  | quoted (bytes : Bool)
  /-- A constant that is written as a name or as three points. -/
  | constant
  /-- The name that makes an empty set of a pair of parentheses. -/
  | setName
  | sign
  | comma
  | colon
  | opening (brace : Bool)
  | closing (brace : Bool)
  deriving DecidableEq, Repr

/-- A hexadecimal digit of either case. -/
def isHexDigit (c : Char) : Bool :=
  (Json.hexValue? c).isSome

/-- Digits with single underscores between them. -/
def isGrouped (accepts : Char → Bool) (text : List Char) : Bool :=
  (Text.pieces '_' text).all fun piece => !piece.isEmpty && piece.all accepts

/-- Digits behind the mark of their base, from which an underscore may separate them. -/
def isGroupedBehindMark (accepts : Char → Bool) : List Char → Bool
  | '_' :: digits => isGrouped accepts digits
  | digits => isGrouped accepts digits

/-- Whether digits are a whole number, which does not start with a zero unless it is zero. -/
def isWhole (text : List Char) : Bool :=
  isGrouped Char.isDigit text &&
    if text.head? = some '0' then text.all fun c => c = '0' || c = '_'
    else (text.filter (· ≠ '_')).length ≤ Json.integerDigitLimit

/-- Whether a text is a point with digits on one side of it or both. -/
def isPointed (text : List Char) : Bool :=
  let whole := text.takeWhile (· ≠ '.')
  match text.drop whole.length with
  | '.' :: fraction =>
      (!whole.isEmpty || !fraction.isEmpty) && (whole.isEmpty || isGrouped Char.isDigit whole) &&
        (fraction.isEmpty || isGrouped Char.isDigit fraction)
  | _ => false

/-- Whether a text is the digits of an exponent, with a sign or none. -/
def isExponent : List Char → Bool
  | '+' :: digits => isGrouped Char.isDigit digits
  | '-' :: digits => isGrouped Char.isDigit digits
  | digits => isGrouped Char.isDigit digits

/-- The letter that an exponent starts with. -/
def isExponentMark (c : Char) : Bool :=
  c = 'e' || c = 'E'

/-- Whether a text is a number with a point or an exponent. -/
def isScaled (text : List Char) : Bool :=
  let size := text.takeWhile fun c => !isExponentMark c
  match text.drop size.length with
  | [] => isPointed size
  | _ :: exponent => (isPointed size || isGrouped Char.isDigit size) && isExponent exponent

/-- The number that a text is. -/
def number? (text : List Char) : Option Token :=
  let based :=
    match text with
    | '0' :: mark :: digits =>
        if mark = 'x' ∨ mark = 'X' then isGroupedBehindMark isHexDigit digits
        else if mark = 'o' ∨ mark = 'O' then
          isGroupedBehindMark (fun c => '0' ≤ c && c ≤ '7') digits
        else if mark = 'b' ∨ mark = 'B' then
          isGroupedBehindMark (fun c => c = '0' || c = '1') digits
        else false
    | _ => false
  if based || isWhole text || isScaled text then some (.number false)
  else
    match text.getLast? with
    | some last =>
        let size := text.dropLast
        if (last = 'j' ∨ last = 'J') && (isGrouped Char.isDigit size || isScaled size) then
          some (.number true)
        else none
    | none => none

/-- Whether a number goes on behind an exponent mark with the sign of the exponent. -/
def endsInMark (text : List Char) : Bool :=
  text.getLast?.any isExponentMark && !("0x".toList.isPrefixOf text || "0X".toList.isPrefixOf text)

/-- What a number at the start of a text is written with, and what follows it. -/
def numberSpan (text : List Char) : List Char × List Char :=
  let isPart (c : Char) : Bool := Text.isIdentifierPart c || c = '.'
  let written := text.takeWhile isPart
  match text.drop written.length with
  | sign :: rest =>
      if (sign = '+' ∨ sign = '-') && endsInMark written then
        let exponent := rest.takeWhile isPart
        (written ++ sign :: exponent, rest.drop exponent.length)
      else (written, sign :: rest)
  | [] => (written, [])

/-- Whether the escape behind a backslash is well formed; `bytes` have no escapes for characters
outside ASCII.
-/
def isEscape (bytes : Bool) (mark : Char) (rest : List Char) : Bool :=
  let hasDigits (count : Nat) : Bool :=
    (rest.take count).length = count && (rest.take count).all isHexDigit
  if mark = 'x' then hasDigits 2
  else if bytes then true
  else if mark = 'u' then hasDigits 4
  else if mark = 'U' then
    hasDigits 8 && ("000".toList.isPrefixOf rest || "0010".toList.isPrefixOf rest)
  else if mark = 'N' then
    match rest with
    | '\x7b' :: name =>
        let closing := name.dropWhile (· ≠ '\x7d')
        !closing.isEmpty && Text.isCharacterName (name.takeWhile (· ≠ '\x7d'))
    | _ => false
  else true

/-- How a quoted text is written. -/
structure Quote where
  mark : Char
  /-- Whether the mark is written three times on both sides. -/
  long : Bool
  /-- Whether backslashes stand for themselves. -/
  raw : Bool
  bytes : Bool

/-- What follows a quoted text that starts here, behind its opening mark. -/
def Quote.close? (quote : Quote) : List Char → Option (List Char)
  | [] => none
  | '\\' :: c :: rest =>
      if (quote.bytes && 0x80 ≤ c.toNat) || !(quote.raw || isEscape quote.bytes c rest) then none
      else close? quote rest
  | c :: rest =>
      if c = quote.mark then
        if !quote.long then some rest
        else if [c, c].isPrefixOf rest then some (rest.drop 2)
        else close? quote rest
      else if (c = '\n' && !quote.long) || (quote.bytes && 0x80 ≤ c.toNat) then none
      else close? quote rest

/-- The words in front of quoted texts, in lower case, each with whether backslashes stand for
themselves and whether the text is of bytes.
-/
def quoteWords : List (String × Bool × Bool) :=
  [("", false, false), ("u", false, false), ("r", true, false), ("b", false, true),
   ("br", true, true), ("rb", true, true)]

/-- The quoted text behind a word, and what follows it. -/
def quoted? (word : List Char) (mark : Char) (rest : List Char)
    : Option (Token × List Char) := do
  let (raw, bytes) ← quoteWords.lookup (String.ofList (word.map Char.toLower))
  let long := [mark, mark].isPrefixOf rest
  let quote : Quote := { mark := mark, long := long, raw := raw, bytes := bytes }
  let after ← quote.close? (if long then rest.drop 2 else rest)
  return (.quoted bytes, after)

/-- The names that stand for something. -/
def names : List (String × Token) :=
  [("None", .constant), ("True", .constant), ("False", .constant), ("set", .setName)]

/-- The letters outside ASCII that count as the letters of the name of the empty set. -/
def letterForms : List (Char × List Nat) :=
  [('s',
    [0x17f, 0x2e2, 0x209b, 0xff53, 0x1d42c, 0x1d460, 0x1d494, 0x1d4c8, 0x1d4fc, 0x1d530, 0x1d564,
     0x1d598, 0x1d5cc, 0x1d600, 0x1d634, 0x1d668, 0x1d69c]),
   ('e',
    [0x1d49, 0x2091, 0x212f, 0x2147, 0xff45, 0x1d41e, 0x1d452, 0x1d486, 0x1d4ee, 0x1d522, 0x1d556,
     0x1d58a, 0x1d5be, 0x1d5f2, 0x1d626, 0x1d65a, 0x1d68e]),
   ('t',
    [0x1d57, 0x209c, 0xff54, 0x1d42d, 0x1d461, 0x1d495, 0x1d4c9, 0x1d4fd, 0x1d531, 0x1d565, 0x1d599,
     0x1d5cd, 0x1d601, 0x1d635, 0x1d669, 0x1d69d])]

/-- The letter that a character counts as in a name. -/
def plainLetter (c : Char) : Char :=
  ((letterForms.find? fun (_, forms) => forms.contains c.toNat).map (·.1)).getD c

/-- What a name stands for. Only the name of the empty set may be written in other letters. -/
def nameToken? (word : List Char) : Option Token :=
  (names.lookup (String.ofList word)).or
    (if String.ofList (word.map plainLetter) = "set" then some .setName else none)

/-- What a name is written with; letters outside ASCII are not looked at here. -/
def isNamePart (c : Char) : Bool :=
  Text.isIdentifierPart c || 0x80 ≤ c.toNat

/-- The token that a name or a word in front of a quote starts with, and what follows it. -/
def wordToken? (text : List Char) : Option (Token × List Char) :=
  let word := text.takeWhile isNamePart
  match text.drop word.length with
  | [] => (nameToken? word).map fun token => (token, [])
  | c :: rest =>
      if c = '"' ∨ c = '\x27' then quoted? word c rest
      else (nameToken? word).map fun token => (token, c :: rest)

/-- The token that a text starts with, and what follows it. -/
def token? : List Char → Option (Token × List Char)
  | [] => none
  | '.' :: '.' :: '.' :: rest => some (.constant, rest)
  | '(' :: rest => some (.opening false, rest)
  | ')' :: rest => some (.closing false, rest)
  | '\x7b' :: rest => some (.opening true, rest)
  | '\x7d' :: rest => some (.closing true, rest)
  | ',' :: rest => some (.comma, rest)
  | ':' :: rest => some (.colon, rest)
  | '+' :: rest => some (.sign, rest)
  | '-' :: rest => some (.sign, rest)
  | c :: rest =>
      if c = '"' ∨ c = '\x27' then quoted? [] c rest
      else if c.isDigit || c = '.' then
        let (written, after) := numberSpan (c :: rest)
        (number? written).map fun token => (token, after)
      else if isNamePart c then wordToken? (c :: rest)
      else none

/-- How many brackets may be open. -/
def depthLimit : Nat :=
  200

/-- The open brackets behind a token; nothing if there are too many. -/
def depthAfter? (depth : Nat) : Token → Option Nat
  | .opening _ => if depth < depthLimit then some (depth + 1) else none
  | .closing _ => some (depth - 1)
  | _ => some depth

/-- The blanks between tokens. -/
def isGap (c : Char) : Bool :=
  c = ' ' || c = '\t' || c = '\x0c'

/-- What follows a backslash that joins two lines, if it does. There has to be a second line. -/
def joined? : List Char → Option (List Char)
  | '\n' :: c :: rest => some (c :: rest)
  | _ => none

/-- What follows a backslash that joins two lines is shorter than what it stands in front of. -/
theorem length_lt_of_joined {text rest : List Char} (h : joined? text = some rest)
    : rest.length < text.length := by
  unfold joined? at h
  split at h
  · cases h
    simp
  · simp at h

/-- Whether a line is indented, and what it has behind its indentation. A form feed starts the line
anew, but what stands in front of a backslash at the end of the line keeps it `fixed`.
-/
def indentation? (indented fixed : Bool) : List Char → Option (Bool × List Char)
  | [] => some (indented || fixed, [])
  | c :: rest =>
      if c = '\x0c' then indentation? false fixed rest
      else if isGap c then indentation? true fixed rest
      else if c = '\\' then
        match _h : joined? rest with
        | some rest => indentation? indented (indented || fixed) rest
        | none => none
      else some (indented || fixed, c :: rest)
termination_by text => text.length
decreasing_by
  · exact Nat.lt_succ_self rest.length
  · exact Nat.lt_succ_self rest.length
  · exact Nat.lt_succ_of_lt (length_lt_of_joined _h)

/-- The start of a line that is not inside brackets: what stands behind its indentation. Only an
empty line or a comment may be indented.
-/
def lineStart? (text : List Char) : Option (List Char) :=
  match indentation? false false text with
  | some (indented, rest) =>
      if !indented || rest.head?.any fun c => c = '\n' || c = '#' then some rest else none
  | none => none

/-- The tokens of a text. A literal is in one line, which only comments may stand above or below,
unless brackets are open or a backslash stands at the end of the line. `started` says whether the
line of the literal is reached. Every step takes a character, so fuel for the length of the text is
enough.
-/
def tokens : Nat → Bool → Nat → List Char → Option (List Token)
  | _, _, _, [] => some []
  | 0, _, _, _ => none
  | fuel + 1, started, depth, c :: rest =>
      if isGap c then tokens fuel started depth rest
      else if c = '\n' then
        if 0 < depth then tokens fuel started depth rest
        else do
          let more ← tokens fuel false 0 (← lineStart? rest)
          if started && !more.isEmpty then none else some more
      else if c = '#' then tokens fuel started depth (rest.dropWhile (· ≠ '\n'))
      else if c = '\\' then (joined? rest).bind (tokens fuel started depth)
      else do
        let (token, after) ← token? (c :: rest)
        let depth ← depthAfter? depth token
        return token :: (← tokens fuel true depth after)

/-- What a literal is, as far as it matters for what may be made of it. -/
inductive Value where
  /-- A number without a sign. -/
  | number (imaginary : Bool)
  /-- A number behind a sign. -/
  | signed (imaginary : Bool)
  /-- Anything else, and whether it may be in a set. -/
  | other (fixed : Bool)
  deriving DecidableEq, Repr

/-- Whether a literal may be in a set. -/
def Value.isFixed : Value → Bool
  | .number _ | .signed _ => true
  | .other fixed => fixed

/-- Whether a literal is a number that is not imaginary. -/
def Value.isReal : Value → Bool
  | .number imaginary | .signed imaginary => !imaginary
  | .other _ => false

/-- Literals in a row, and whether a comma follows the last one. -/
structure Row where
  values : List Value
  closed : Bool

/-- The literal that a row is: its only value, or a tuple. -/
def Row.value : Row → Value
  | ⟨[value], false⟩ => value
  | ⟨values, _⟩ => .other (values.all Value.isFixed)

/-- Whether nothing more can stand in a row in front of tokens. -/
def endsRow : List Token → Bool
  | [] | .closing _ :: _ => true
  | _ => false

/-- What follows more quoted texts of the same sort, which are one with the text in front of them;
nothing if one of the other sort comes next.
-/
def afterQuoted (bytes : Bool) : List Token → Option (List Token)
  | .quoted more :: rest => if more = bytes then afterQuoted bytes rest else none
  | rest => some rest

/-- How many rules of the grammar may be open at once. -/
def ruleLimit : Nat :=
  6000

/-- How many rules an expression opens to look for what it starts with. -/
def expressionRules : Nat :=
  22

/-- Whether an expression may be looked for while a number of rules is open, its level. -/
def fits (level : Nat) : Bool :=
  level + expressionRules ≤ ruleLimit

/-- The levels of the literals in a row. A comma makes the grammar look for another literal, even if
there is none.
-/
structure RowLevels where
  first : Nat
  second : Nat
  later : Nat

namespace RowLevels

/-- The levels of a row that is not in brackets. -/
def outside : RowLevels :=
  ⟨3, 5, 5⟩

/-- The levels in parentheses that start at a level. -/
def inParentheses (level : Nat) : RowLevels :=
  ⟨level + 28, level + 30, level + 31⟩

/-- The levels in braces that start at a level. -/
def inBraces (level : Nat) : RowLevels :=
  ⟨level + 29, level + 30, level + 30⟩

/-- The levels behind the first literal. -/
def behind (levels : RowLevels) : RowLevels :=
  ⟨levels.second, levels.later, levels.later⟩

end RowLevels

mutual

/-- The literal in front of any sign or comma, and what follows it. All the functions that read a
literal take at most four steps for a token, which bounds the fuel.
-/
def unit : Nat → Nat → List Token → Option (Value × List Token)
  | 0, _, _ => none
  | fuel + 1, level, tokens =>
      if !fits level then none
      else
        match tokens with
        | .number imaginary :: rest => some (.number imaginary, rest)
        | .quoted bytes :: rest =>
            if fits (level + 2) then
              (afterQuoted bytes rest).map fun rest => (.other true, rest)
            else none
        | .constant :: rest => some (.other true, rest)
        | .setName :: .opening false :: .closing false :: rest =>
            if fits (level + 27) then some (.other false, rest) else none
        | .opening false :: .closing false :: rest =>
            if fits (RowLevels.inParentheses level).first then some (.other true, rest) else none
        | .opening false :: rest => do
            let (row, rest) ← row fuel (.inParentheses level) rest
            match rest with
            | .closing false :: rest => return (row.value, rest)
            | _ => none
        | .opening true :: .closing true :: rest =>
            if fits (RowLevels.inBraces level).first then some (.other false, rest) else none
        | .opening true :: rest => do
            let levels := RowLevels.inBraces level
            let (_, after) ← sum fuel levels.first rest
            let rest ←
              match after with
              | .colon :: _ => entries fuel levels rest
              | _ => do
                  let (row, rest) ← row fuel levels rest
                  if row.values.all Value.isFixed then some rest else none
            match rest with
            | .closing true :: rest => return (.other false, rest)
            | _ => none
        | _ => none

/-- The number or other literal in front of any sum or comma, and what follows it. -/
def signedUnit : Nat → Nat → List Token → Option (Value × List Token)
  | 0, _, _ => none
  | fuel + 1, level, tokens =>
      match tokens with
      | .sign :: rest => do
          match ← unit fuel (level + 1) rest with
          | (.number imaginary, rest) => return (.signed imaginary, rest)
          | _ => none
      | _ => unit fuel level tokens

/-- The literal in front of any comma, and what follows it: a unit, or the sum of a real and an
imaginary number.
-/
def sum : Nat → Nat → List Token → Option (Value × List Token)
  | 0, _, _ => none
  | fuel + 1, level, tokens => do
      let (value, rest) ← signedUnit fuel level tokens
      match rest with
      | .sign :: rest =>
          match value.isReal, ← unit fuel level rest with
          | true, (.number true, rest) => return (.other true, rest)
          | _, _ => none
      | _ => return (value, rest)

/-- The literals between commas, at least one, and what follows them. -/
def row : Nat → RowLevels → List Token → Option (Row × List Token)
  | 0, _, _ => none
  | fuel + 1, levels, tokens => do
      let (value, rest) ← sum fuel levels.first tokens
      match rest with
      | .comma :: rest =>
          if endsRow rest then
            if fits levels.second then return (⟨[value], true⟩, rest) else none
          else
            let (row, rest) ← row fuel levels.behind rest
            return (⟨value :: row.values, row.closed⟩, rest)
      | _ => return (⟨[value], false⟩, rest)

/-- What follows the entries of a dictionary, of which there is at least one. -/
def entries : Nat → RowLevels → List Token → Option (List Token)
  | 0, _, _ => none
  | fuel + 1, levels, tokens => do
      let (key, rest) ← sum fuel levels.first tokens
      match key.isFixed, rest with
      | true, .colon :: rest => do
          let (_, rest) ← sum fuel levels.first rest
          match rest with
          | .comma :: rest =>
              if endsRow rest then
                if fits levels.second then return rest else none
              else entries fuel levels.behind rest
          | _ => return rest
      | _, _ => none

end

/-- Whether a text is a literal. All line ends count as line feeds, and no character may be null. -/
def isLiteral (text : List Char) : Bool :=
  let text := Text.uniformLines text
  match (lineStart? text).bind (tokens text.length false 0) with
  | none => false
  | some tokens =>
      !text.contains '\x00' &&
        match row (4 * tokens.length + 4) .outside tokens with
        | some (_, rest) => rest.isEmpty
        | none => false

end SolidityAtlas.Literal
