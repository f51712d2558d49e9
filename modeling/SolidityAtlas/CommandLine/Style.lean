import SolidityAtlas.CommandLine.ColourNames
import SolidityAtlas.Failure
import SolidityAtlas.Json.Reader
import SolidityAtlas.Text.Wrap

/-! The styles that tags ask for: words for attributes of text, for its colours and for a link.
Plain output shows none of them, but a tag is closed by any tag that asks for the same style, so a
style has a normal form.
-/

namespace SolidityAtlas

/-- What can be switched on and off for text. -/
inductive TextAttribute where
  | bold
  | dim
  | italic
  | underline
  | blink
  | blink2
  | reverse
  | conceal
  | strike
  | underline2
  | frame
  | encircle
  | overline
  deriving DecidableEq, Repr

namespace TextAttribute

/-- The attributes in the order of normal forms, each with the words for it, the full one first. -/
def table : List (TextAttribute × List String) :=
  [(.bold, ["bold", "b"]), (.dim, ["dim", "d"]), (.italic, ["italic", "i"]),
   (.underline, ["underline", "u"]), (.blink, ["blink"]), (.blink2, ["blink2"]),
   (.reverse, ["reverse", "r"]), (.conceal, ["conceal", "c"]), (.strike, ["strike", "s"]),
   (.underline2, ["underline2", "uu"]), (.frame, ["frame"]), (.encircle, ["encircle"]),
   (.overline, ["overline", "o"])]

/-- The attribute that a word is for. -/
def ofWord? (word : List Char) : Option TextAttribute :=
  (table.find? fun entry => entry.2.contains (String.ofList word)).map (·.1)

end TextAttribute

/-- A style. Of an attribute that is set more than once the last setting counts, which stands
first.
-/
structure Style where
  attributes : List (TextAttribute × Bool) := []
  colour : Option (List Char) := none
  background : Option (List Char) := none
  link : Option (List Char) := none
  deriving DecidableEq, Repr

namespace Style

/-- Why a text is no style. -/
inductive Cause where
  /-- A word means nothing where it stands. -/
  | unknownWord
  /-- A part of a colour is no number. -/
  | badNumber
  deriving DecidableEq, Repr

/-- What stands between a name with an opening parenthesis and a closing parenthesis. -/
def argument? (name : String) (text : List Char) : Option (List Char) :=
  let opening := name.toList ++ ['(']
  let inside := text.drop opening.length
  if opening.isPrefixOf text && inside.getLast? = some ')' then some inside.dropLast else none

/-- The largest number of a colour and the largest part of one. -/
def colourLimit : Nat :=
  255

/-- A part of a colour, in digits of any script. -/
def colourPart (digits : List Char) : Except Cause Nat :=
  if digits.isEmpty ∨ Json.integerDigitLimit < digits.length then .error .badNumber
  else .ok ((digits.filterMap Text.digitValue?).foldl (fun value digit => 10 * value + digit) 0)

/-- Whether a text names a colour by three parts, separated by commas. -/
def isMixed (inside : List Char) : Except Cause Bool :=
  if inside.all fun c => (Text.digitValue? c).isSome || c = ',' then
    match Text.pieces ',' inside with
    | [red, green, blue] => do
        let parts ← [red, green, blue].mapM colourPart
        return parts.all fun part => part ≤ colourLimit
    | _ => .ok false
  else .ok false

/-- Whether a text is the number of a colour. -/
def isColourNumber (inside : List Char) : Bool :=
  inside.all Char.isDigit && 1 ≤ inside.length && inside.length ≤ 3 &&
    Json.digitsValue inside ≤ colourLimit

/-- Whether a text is a colour by the digits of its parts. -/
def isHexColour : List Char → Bool
  | '#' :: digits => digits.length = 6 && digits.all fun c => c.isDigit || ('a' ≤ c && c ≤ 'f')
  | _ => false

/-- The names of colours. -/
def colourNames : List (List Char) :=
  "default".toList :: colourLines.flatMap fun line => Text.pieces ' ' line.toList

/-- The colour that a word is for, in lower case. -/
def colourOf (word : List Char) : Except Cause (List Char) :=
  let name := Text.lowered word
  let known : Except Cause Bool :=
    match argument? "rgb" name with
    | some inside => isMixed inside
    | none =>
        .ok (colourNames.contains name || isHexColour name ||
          (argument? "color" name).any isColourNumber)
  known.bind fun known => if known then .ok name else .error .unknownWord

/-- A style with one more word. -/
def addWord (style : Style) (word : List Char) : Except Cause Style :=
  match TextAttribute.ofWord? (Text.lowered word) with
  | some found => .ok { style with attributes := (found, true) :: style.attributes }
  | none => (colourOf word).map fun name => { style with colour := some name }

/-- A style with a background colour. -/
def addBackground (style : Style) (word : List Char) : Except Cause Style :=
  (colourOf word).map fun name => { style with background := some name }

/-- A style with an attribute switched off. -/
def switchOff (style : Style) (word : List Char) : Except Cause Style :=
  match TextAttribute.ofWord? word with
  | some found => .ok { style with attributes := (found, false) :: style.attributes }
  | none => .error .unknownWord

/-- A style with more words: a word that asks for something to follow takes the next word. -/
def addWords (style : Style) : List (List Char) → Except Cause Style
  | [] => .ok style
  | [word] => style.addWord word
  | word :: next :: rest =>
      let lead := String.ofList (Text.lowered word)
      if lead = "on" then (style.addBackground next).bind fun style => addWords style rest
      else if lead = "not" then (style.switchOff next).bind fun style => addWords style rest
      else if lead = "link" then addWords { style with link := some next } rest
      else (style.addWord word).bind fun style => addWords style (next :: rest)

/-- The style that a text asks for. -/
def ofText (text : List Char) : Except Cause Style :=
  addWords {} ((Text.words false [] text).map Text.trim)

/-- The words of a style in their order. -/
def text (style : Style) : List Char :=
  let attributes := TextAttribute.table.filterMap fun (entry, words) =>
    (style.attributes.lookup entry).map fun isOn =>
      (if isOn then "" else "not ").toList ++ (words.headD "").toList
  [' '].intercalate
    (attributes ++ style.colour.toList ++ (style.background.toList.map ("on ".toList ++ ·)) ++
      (style.link.toList.map ("link ".toList ++ ·)))

/-- The normal form of a text that asks for a style. A text that is no style is only brought to
lower case.
-/
def normalForm (text : List Char) : Outcome (List Char) :=
  match ofText text with
  | .ok style => .ok style.text
  | .error .unknownWord => .ok (Text.lowered (Text.trim text))
  | .error .badNumber => .error .badNumber

/-- Looks whether a text can be shown in the style that another text asks for. A style that is
unknown is passed over.
-/
def check (text : List Char) : Outcome Unit :=
  match ofText text with
  | .error .badNumber => .error .badNumber
  | _ => .ok ()

end Style

end SolidityAtlas
