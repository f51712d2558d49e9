import SolidityAtlas.Outline.TypeName
import SolidityAtlas.Resolution.TypeCandidates
import SolidityAtlas.Proofs.Pattern.Preferred
import SolidityAtlas.Proofs.Text.Trim

/-! Type names as text and back. The outline keeps a type as its text, and the names in it are found
by taking the text apart at mappings and arrays. For every type this gives the names at its leaves
from left to right. What a type is nested in does not matter, since mappings are taken apart at the
first `=>` and the last `)`, and arrays at the first `[`.
-/

namespace SolidityAtlas

open Pattern

/-- A type of Solidity, as far as its text tells it. -/
inductive TypeName where
  /-- A built-in type. -/
  | elementary (name : String)
  /-- A type that the source declares; its name may be qualified. -/
  | userDefined (name : String)
  /-- A function type, of which nothing else is kept. -/
  | function
  /-- An array, with the text of its length, which is empty where it has none. -/
  | array (element : TypeName) (length : String)
  | mapping (key value : TypeName)
  deriving DecidableEq, Repr

namespace TypeName

/-- A type as it is written. -/
def text : TypeName → String
  | .elementary name | .userDefined name => name
  | .function => "function"
  | .array element length => element.text ++ "[" ++ length ++ "]"
  | .mapping key value => "mapping(" ++ key.text ++ " => " ++ value.text ++ ")"

/-- The names at the leaves of a type, from left to right. -/
def leaves : TypeName → List String
  | .elementary name | .userDefined name => [name]
  | .function => ["function"]
  | .array element _ => element.leaves
  | .mapping key value => key.leaves ++ value.leaves

/-- Whether a type is built without mappings. -/
def isPlain : TypeName → Bool
  | .elementary _ | .userDefined _ | .function => true
  | .array element _ => element.isPlain
  | .mapping _ _ => false

end TypeName

/-- A text in one line that neither starts nor ends with white space. -/
structure IsSolid (text : List Char) : Prop where
  some : text ≠ []
  first : ∀ c ∈ text.head?, Text.isSpace c = false
  last : ∀ c ∈ text.getLast?, Text.isSpace c = false
  inline : ∀ c ∈ text, Text.isInline c = true

instance {text : List Char} : Decidable (IsSolid text) :=
  decidable_of_iff
    (text.isEmpty = false ∧ text.head?.toList.all (fun c => Text.isSpace c == false) = true
      ∧ text.getLast?.toList.all (fun c => Text.isSpace c == false) = true
      ∧ text.all Text.isInline = true)
    ⟨fun ⟨given, first, last, inline⟩ =>
      ⟨by simpa using given, by simpa using first, by simpa using last, by simpa using inline⟩,
    fun solid =>
      ⟨by simpa using solid.some, by simpa using solid.first, by simpa using solid.last,
        by simpa using solid.inline⟩⟩

/-- A name of a type: a solid text without the characters that structure types. Identifiers are such
names, also with dots between them, and so are the names of built-in types.
-/
structure IsTypeWord (name : String) : Prop where
  solid : IsSolid name.toList
  plain : ∀ c ∈ name.toList, c ∉ ['(', ')', '[', ']', '=']

instance {name : String} : Decidable (IsTypeWord name) :=
  decidable_of_iff
    (IsSolid name.toList
      ∧ name.toList.all (fun c => ['(', ')', '[', ']', '='].contains c == false) = true)
    ⟨fun ⟨solid, plain⟩ => ⟨solid, by simpa using plain⟩,
    fun word => ⟨word.solid, by simpa using word.plain⟩⟩

/-- The text of an array length: a text in one line without the characters that structure
mappings.
-/
def IsLengthText (length : String) : Prop :=
  ∀ c ∈ length.toList, c ∉ ['(', ')', '=', '\n']

instance {length : String} : Decidable (IsLengthText length) :=
  decidable_of_iff (length.toList.all (fun c => ['(', ')', '=', '\n'].contains c == false) = true)
    (by simp [IsLengthText])

/-- A type whose names are names, and whose mappings have keys without mappings. -/
def TypeName.IsWellFormed : TypeName → Prop
  | .elementary name | .userDefined name => IsTypeWord name
  | .function => True
  | .array element length => element.IsWellFormed ∧ IsLengthText length
  | .mapping key value => key.IsWellFormed ∧ key.isPlain = true ∧ value.IsWellFormed

instance decidableIsWellFormed : (type : TypeName) → Decidable type.IsWellFormed
  | .elementary name | .userDefined name => inferInstanceAs (Decidable (IsTypeWord name))
  | .function => inferInstanceAs (Decidable True)
  | .array element length =>
      have := decidableIsWellFormed element
      inferInstanceAs (Decidable (element.IsWellFormed ∧ IsLengthText length))
  | .mapping key value =>
      have := decidableIsWellFormed key
      have := decidableIsWellFormed value
      inferInstanceAs
        (Decidable (key.IsWellFormed ∧ key.isPlain = true ∧ value.IsWellFormed))

-----------------------------------------------------------------------------------------
-- Texts without white space around them
-----------------------------------------------------------------------------------------

variable {text front back key value suffix : List Char} {name length : String} {type : TypeName}

/-- Such a text is not trimmed. -/
theorem IsSolid.trim_eq (solid : IsSolid text) : Text.trim text = text :=
  Text.IsTrimmed.trim_eq ⟨solid.first, solid.last⟩

/-- Two such texts make one. -/
theorem IsSolid.append (left : IsSolid front) (right : IsSolid back) : IsSolid (front ++ back) where
  some := by simp [left.some]
  first := by
    obtain ⟨c, rest, rfl⟩ := List.exists_cons_of_ne_nil left.some
    exact left.first
  last := by
    rw [List.getLast?_append, List.getLast?_eq_some_getLast right.some, Option.some_or,
      ← List.getLast?_eq_some_getLast]
    exact right.last
  inline := by
    intro c member
    rcases List.mem_append.mp member with early | late
    · exact left.inline c early
    · exact right.inline c late

/-- A part at the end of such a text is not all white space. -/
theorem IsSolid.exists_solid (solid : IsSolid (front ++ back)) (some : back ≠ [])
    : ∃ c ∈ back, Text.isSpace c = false := by
  refine ⟨back.getLast some, List.getLast_mem some, solid.last _ ?_⟩
  rw [List.getLast?_append, List.getLast?_eq_some_getLast some]
  rfl

/-- A text between two characters that are no white space is solid if it is in one line. -/
theorem IsSolid.enclosed {first last : Char} (opens : Text.isSpace first = false)
    (closes : Text.isSpace last = false)
    (inline : ∀ c ∈ first :: (text ++ [last]), Text.isInline c = true)
    : IsSolid (first :: (text ++ [last])) where
  some := by simp
  first := by simpa using opens
  last := by
    rw [← List.cons_append, List.getLast?_concat]
    simpa using closes
  inline := inline

-----------------------------------------------------------------------------------------
-- Taking texts apart
-----------------------------------------------------------------------------------------

/-- The brackets behind the element of arrays: none, or a text in one line from a `[` to a `]`,
without parentheses.
-/
structure IsBrackets (suffix : List Char) : Prop where
  shape : suffix = [] ∨ ∃ lengths, suffix = '[' :: (lengths ++ [']'])
  plain : ∀ c ∈ suffix, c ∉ ['(', ')', '\n']

/-- A text without parentheses is no mapping. -/
theorem matchAt_mappingType_eq_none (absent : '(' ∉ text)
    : Vocabulary.mappingType.matchAt (.start text) = none := by
  rw [matchAt, Option.map_eq_none_iff]
  exact firstWay_eq_none_of_not_mem [literal "mapping", spaces] absent

/-- A text without brackets is no array. -/
theorem matchAt_arrayType_eq_none (absent : '[' ∉ text)
    : Vocabulary.arrayType.matchAt (.start text) = none := by
  rw [matchAt, Option.map_eq_none_iff]
  exact firstWay_eq_none_of_not_mem
    [.textStart, .capture 1 (oneOrMoreLazy Text.isInline), spaces] absent

/-- An array is taken apart at the first bracket, since no earlier place is in front of one. -/
theorem firstWay_arrayType {here : Cursor} (atStart : here.before = none) (solid : IsSolid front)
    (plain : '[' ∉ front) (inline : ∀ c ∈ text, Text.isInline c = true)
    (stands : here.rest = front ++ '[' :: (text ++ [']']))
    : Vocabulary.arrayType.firstWay here some
      = some ((((here.capture 1 (here.pass front)).pass ['[']).pass text).pass [']']) := by
  have atBracket : (here.capture 1 (here.pass front)).rest = '[' :: (text ++ [']']) :=
    Cursor.rest_pass stands
  have atLength
      : ((here.capture 1 (here.pass front)).pass ['[']).rest = text ++ [']'] :=
    Cursor.rest_pass atBracket
  have atEnd
      : (((here.capture 1 (here.pass front)).pass ['[']).pass text).rest = [']'] :=
    Cursor.rest_pass atLength
  simp only [Vocabulary.arrayType, firstWay_sequence_cons]
  rw [firstWay, if_pos (by simp [atStart]), firstWay]
  refine firstWay_oneOrMoreLazy stands solid.some solid.inline ?_ ?_
  · intro before after split _ some
    subst split
    have ahead : (here.capture 1 (here.pass before)).rest = after ++ '[' :: (text ++ [']']) :=
      Cursor.rest_pass (by simpa using stands)
    refine firstWay_spaces_char_eq_none '[' ahead (solid.exists_solid some) ?_
    exact fun member => plain (List.mem_append_right _ member)
  · rw [firstWay_spaces_of_solid atBracket (by decide), firstWay_char atBracket]
    refine firstWay_many atLength inline ?_ ?_
    · intro more after split some _
      refine firstWay_char_eq_none ?_
      have ended : after = [] := by
        have lengths := congrArg List.length split
        have longer := List.length_pos_iff.mpr some
        rw [List.length_singleton, List.length_append] at lengths
        exact List.eq_nil_of_length_eq_zero (by omega)
      rw [Cursor.rest_pass (by rw [atLength, split, List.append_assoc]), ended]
      simp
    · rw [firstWay_char atEnd, firstWay, if_pos (.inl (Cursor.rest_pass atEnd))]
      rfl

/-- What an array is taken apart to. -/
theorem exists_matchAt_arrayType (solid : IsSolid front) (plain : '[' ∉ front)
    (inline : ∀ c ∈ text, Text.isInline c = true)
    : ∃ found,
        Vocabulary.arrayType.matchAt (.start (front ++ '[' :: (text ++ [']']))) = some found
        ∧ found.group 1 = String.ofList front := by
  rw [matchAt, firstWay_arrayType rfl solid plain inline rfl, Option.map_some]
  refine ⟨_, rfl, ?_⟩
  simp only [Match.group, Match.group?, Cursor.groups_pass, Cursor.groups_capture_pass]
  exact Captured.text_of_append rfl

/-- The key of a mapping ends at the first arrow, since it has no arrow itself. -/
theorem firstWay_mappingKey {here stop : Cursor} {next : Cursor → Option Cursor}
    {others : List Pattern} {rest : List Char} (solid : IsSolid key) (plain : '=' ∉ key)
    (stands : here.rest = key ++ ([' '] ++ ("=>".toList ++ rest)))
    (found
      : (sequence others).firstWay
            (((here.capture 1 (here.pass key)).pass [' ']).pass "=>".toList) next
        = some stop)
    : (sequence
        (.capture 1 (oneOrMoreLazy Text.isInline) :: spaces :: literal "=>" :: others)).firstWay
          here next
      = some stop := by
  have behind : (here.capture 1 (here.pass key)).rest = [' '] ++ ("=>".toList ++ rest) :=
    Cursor.rest_pass stands
  have atArrow
      : ((here.capture 1 (here.pass key)).pass [' ']).rest = "=>".toList ++ rest :=
    Cursor.rest_pass behind
  have arrow (mid : Cursor) (next : Cursor → Option Cursor)
      : (literal "=>").firstWay mid next
        = (char '=').firstWay mid fun mid => (char '>').firstWay mid next :=
    rfl
  simp only [firstWay_sequence_cons]
  rw [firstWay]
  refine firstWay_oneOrMoreLazy stands solid.some solid.inline ?_ ?_
  · intro before after split _ some
    subst split
    have ahead
        : (here.capture 1 (here.pass before)).rest
          = after ++ ([' '] ++ ("=>".toList ++ rest)) :=
      Cursor.rest_pass (by simpa using stands)
    simp only [arrow]
    refine firstWay_spaces_char_eq_none '=' ahead (solid.exists_solid some) ?_
    exact fun member => plain (List.mem_append_right _ member)
  · refine firstWay_spaces behind (List.all_eq_true.mp (by decide)) (by simp; decide) ?_
    rw [literal, firstWay_literal atArrow]
    exact found

/-- The value of a mapping ends at the last parenthesis. -/
theorem firstWay_mappingValue {here : Cursor} (solid : IsSolid value) (closed : ')' ∉ suffix)
    (stands : here.rest = [' '] ++ (value ++ ')' :: suffix))
    : (sequence [spaces, .capture 2 (oneOrMore Text.isInline), spaces, char ')']).firstWay here some
      = some (((here.pass [' ']).capture 2 ((here.pass [' ']).pass value)).pass [')']) := by
  have atValue : (here.pass [' ']).rest = value ++ ')' :: suffix := Cursor.rest_pass stands
  have atEnd
      : ((here.pass [' ']).capture 2 ((here.pass [' ']).pass value)).rest = ')' :: suffix :=
    Cursor.rest_pass atValue
  have starts : ∀ c ∈ (value ++ ')' :: suffix).head?, Text.isSpace c = false := by
    obtain ⟨c, rest, rfl⟩ := List.exists_cons_of_ne_nil solid.some
    exact solid.first
  rw [firstWay_sequence_cons]
  refine firstWay_spaces stands (List.all_eq_true.mp (by decide)) starts ?_
  rw [firstWay_sequence_cons, firstWay]
  refine firstWay_oneOrMore atValue solid.some solid.inline ?_ ?_
  · intro more after split some _
    refine firstWay_eq_none_of_not_mem [spaces] ?_
    obtain ⟨c, more, rfl⟩ := List.exists_cons_of_ne_nil some
    obtain ⟨rfl, rfl⟩ := List.cons.inj split
    have ahead
        : ((here.pass [' ']).capture 2 ((here.pass [' ']).pass (value ++ ')' :: more))).rest
          = after :=
      Cursor.rest_pass (by simpa using atValue)
    rw [ahead]
    exact fun member => closed (List.mem_append_right _ member)
  · rw [firstWay_sequence_cons, firstWay_spaces_of_solid atEnd (by decide)]
    exact firstWay_char atEnd

/-- What a mapping is taken apart to. -/
theorem exists_matchAt_mappingType (keySolid : IsSolid key) (valueSolid : IsSolid value)
    (plain : '=' ∉ key) (closed : ')' ∉ suffix)
    (whole
      : text
        = "mapping".toList
          ++ ('(' :: (key ++ ([' '] ++ ("=>".toList ++ ([' '] ++ (value ++ ')' :: suffix)))))))
    : ∃ found,
        Vocabulary.mappingType.matchAt (.start text) = some found
        ∧ found.group 1 = String.ofList key
        ∧ found.group 2 = String.ofList value := by
  generalize started : Cursor.start text = here
  have stands : here.rest = text := started ▸ rfl
  rw [whole] at stands
  have atOpening := Cursor.rest_pass stands
  have atKey
      : ((here.pass "mapping".toList).pass ['(']).rest
        = key ++ ([' '] ++ ("=>".toList ++ ([' '] ++ (value ++ ')' :: suffix)))) :=
    Cursor.rest_pass atOpening
  obtain ⟨first, others, split⟩ := List.exists_cons_of_ne_nil keySolid.some
  have keyStarts : Text.isSpace first = false := keySolid.first first (by simp [split])
  have behindKey
      := Cursor.rest_pass (Cursor.rest_pass (Cursor.rest_pass atKey))
  rw [matchAt, Vocabulary.mappingType, firstWay_sequence_cons, literal, firstWay_literal stands,
    firstWay_sequence_cons, firstWay_spaces_of_solid atOpening (by decide),
    firstWay_sequence_cons, firstWay_char atOpening, firstWay_sequence_cons,
    firstWay_spaces_of_solid (by rw [atKey, split]; rfl) keyStarts]
  rw [firstWay_mappingKey keySolid plain atKey (firstWay_mappingValue valueSolid closed behindKey)]
  rw [Option.map_some]
  refine ⟨_, rfl, ?_, ?_⟩
  · simp only [Match.group, Match.group?, Cursor.groups_pass, Cursor.groups_capture_pass]
    exact Captured.text_of_append atKey
  · simp only [Match.group, Match.group?, Cursor.groups_pass, Cursor.groups_capture_pass]
    exact Captured.text_of_append (Cursor.rest_pass behindKey)

-----------------------------------------------------------------------------------------
-- Texts of types
-----------------------------------------------------------------------------------------

/-- No brackets. -/
theorem IsBrackets.nil : IsBrackets [] :=
  ⟨.inl rfl, by simp⟩

/-- The brackets of an array in front of those of the arrays around it. -/
theorem IsBrackets.cons (brackets : IsBrackets suffix) (lengthText : IsLengthText length)
    : IsBrackets ('[' :: (length.toList ++ ']' :: suffix)) where
  shape := by
    rcases brackets.shape with rfl | ⟨lengths, rfl⟩
    · exact .inr ⟨length.toList, by simp⟩
    · exact .inr ⟨length.toList ++ ']' :: '[' :: lengths, by simp⟩
  plain := by
    intro c member
    rw [List.mem_cons, List.mem_append, List.mem_cons] at member
    rcases member with rfl | inLength | rfl | behind
    · decide
    · have other := lengthText c inLength
      simp only [List.mem_cons, not_or] at other ⊢
      exact ⟨other.1, other.2.1, other.2.2.2.1, List.not_mem_nil⟩
    · decide
    · exact brackets.plain c behind

/-- Brackets are solid, if there are any. -/
theorem IsBrackets.solid (brackets : IsBrackets suffix) (some : suffix ≠ []) : IsSolid suffix := by
  rcases brackets.shape with rfl | ⟨lengths, rfl⟩
  · exact absurd rfl some
  · refine .enclosed (by decide) (by decide) ?_
    intro c member
    have other := brackets.plain c member
    simp only [List.mem_cons, not_or] at other
    simp [Text.isInline, other.2.2.1]

/-- A solid text stays solid with brackets behind it. -/
theorem IsSolid.append_brackets (solid : IsSolid front) (brackets : IsBrackets suffix)
    : IsSolid (front ++ suffix) := by
  by_cases none : suffix = []
  · rwa [none, List.append_nil]
  · exact solid.append (brackets.solid none)

namespace TypeName

/-- The text of an array with brackets behind it is that of its element with more brackets. -/
theorem toList_text_array (element : TypeName) (length : String) (suffix : List Char)
    : (array element length).text.toList ++ suffix
      = element.text.toList ++ '[' :: (length.toList ++ ']' :: suffix) := by
  simp [text]

/-- The text of a mapping, part by part. -/
theorem toList_text_mapping (key value : TypeName) (suffix : List Char)
    : (mapping key value).text.toList ++ suffix
      = "mapping".toList
        ++ '('
          :: (key.text.toList
            ++ ([' '] ++ ("=>".toList ++ ([' '] ++ (value.text.toList ++ ')' :: suffix))))) := by
  simp [text]

/-- The text of a type is solid, by induction on the type. -/
theorem solid_text (wellFormed : type.IsWellFormed) : IsSolid type.text.toList := by
  induction type with
  | elementary name | userDefined name => exact wellFormed.solid
  | function => decide
  | array element length ih =>
      rw [← List.append_nil (array element length).text.toList, toList_text_array]
      exact (ih wellFormed.1).append_brackets (IsBrackets.nil.cons wellFormed.2)
  | mapping key value keySolid valueSolid =>
      have keyInline := (keySolid wellFormed.1).inline
      have valueInline := (valueSolid wellFormed.2.2).inline
      have whole
          : (mapping key value).text.toList
            = 'm'
              :: ("apping(".toList ++ key.text.toList ++ " => ".toList ++ value.text.toList
                ++ [')']) := by
        simp [text]
      rw [whole]
      refine .enclosed (by decide) (by decide) ?_
      simp only [List.forall_mem_append, List.forall_mem_cons]
      have opening : ∀ c ∈ "apping(".toList, Text.isInline c = true :=
        List.all_eq_true.mp (by decide)
      have arrow : ∀ c ∈ " => ".toList, Text.isInline c = true :=
        List.all_eq_true.mp (by decide)
      exact ⟨by decide, ⟨⟨⟨opening, keyInline⟩, arrow⟩, valueInline⟩, by decide, by simp⟩

/-- The text of a type without mappings has no arrow, by induction on the type. -/
theorem not_mem_text (wellFormed : type.IsWellFormed) (plain : type.isPlain = true)
    : '=' ∉ type.text.toList := by
  induction type with
  | elementary name | userDefined name => exact fun member => wellFormed.plain _ member (by simp)
  | function => decide
  | array element length ih =>
      rw [← List.append_nil (array element length).text.toList, toList_text_array]
      intro member
      rw [List.mem_append, List.mem_cons, List.mem_append] at member
      rcases member with inElement | same | inLength | behind
      · exact ih wellFormed.1 plain inElement
      · cases same
      · exact wellFormed.2 _ inLength (by simp)
      · cases List.mem_singleton.mp behind
  | mapping key value => cases plain

end TypeName

-----------------------------------------------------------------------------------------
-- Leaves
-----------------------------------------------------------------------------------------

/-- Taking a solid text apart: as a mapping, else as an array, else it is a name. -/
theorem unwrapType_of_solid (solid : IsSolid text) (fuel : Nat)
    : unwrapType (fuel + 1) text
      = match Vocabulary.mappingType.matchAt (.start text) with
        | some found =>
            unwrapType fuel (found.group 1).toList ++ unwrapType fuel (found.group 2).toList
        | none =>
            match Vocabulary.arrayType.matchAt (.start text) with
            | some found => unwrapType fuel (found.group 1).toList
            | none => [String.ofList text] := by
  have some : text.isEmpty = false := by simpa using solid.some
  rw [unwrapType, solid.trim_eq, some]
  rfl

/-- A name is one leaf. -/
theorem unwrapType_word (word : IsTypeWord name) (fuel : Nat)
    : unwrapType (fuel + 1) name.toList = [name] := by
  have absent (c : Char) (structural : c ∈ ['(', ')', '[', ']', '=']) : c ∉ name.toList :=
    fun member => word.plain c member structural
  rw [unwrapType_of_solid word.solid, matchAt_mappingType_eq_none (absent '(' (by simp)),
    matchAt_arrayType_eq_none (absent '[' (by simp)), String.ofList_toList]

/-- Arrays of a name are one leaf. -/
theorem unwrapType_word_append (word : IsTypeWord name) (brackets : IsBrackets suffix) {fuel : Nat}
    (enough : (name.toList ++ suffix).length < fuel)
    : unwrapType fuel (name.toList ++ suffix) = [name] := by
  obtain ⟨fuel, rfl⟩ := Nat.exists_eq_succ_of_ne_zero (Nat.ne_zero_of_lt enough)
  rcases brackets.shape with rfl | ⟨lengths, rfl⟩
  · rw [List.append_nil, unwrapType_word word]
  · have noMapping : '(' ∉ name.toList ++ '[' :: (lengths ++ [']']) := by
      rw [List.mem_append]
      rintro (inName | behind)
      · exact word.plain '(' inName (by simp)
      · exact brackets.plain '(' behind (by simp)
    have inline : ∀ c ∈ lengths, Text.isInline c = true := by
      intro c member
      exact (brackets.solid (by simp)).inline c (by simp [member])
    obtain ⟨found, matched, element⟩ :=
      exists_matchAt_arrayType word.solid (fun member => word.plain '[' member (by simp)) inline
    rw [unwrapType_of_solid (word.solid.append_brackets brackets),
      matchAt_mappingType_eq_none noMapping, matched]
    obtain ⟨fuel, rfl⟩ : ∃ less, fuel = less + 1 := by
      rw [List.length_append, List.length_cons] at enough
      exact ⟨fuel - 1, by omega⟩
    simp only [element, String.ofList_toList, unwrapType_word word]

/-- Taking the text of a type apart, with brackets of arrays behind it, gives its leaves. Induction
on the type: an array adds its brackets to those behind it, and a mapping takes no notice of them.
-/
theorem unwrapType_text (wellFormed : type.IsWellFormed) (brackets : IsBrackets suffix) {fuel : Nat}
    (enough : (type.text.toList ++ suffix).length < fuel)
    : unwrapType fuel (type.text.toList ++ suffix) = type.leaves := by
  induction type generalizing suffix fuel with
  | elementary name | userDefined name => exact unwrapType_word_append wellFormed brackets enough
  | function =>
      have word : IsTypeWord "function" := by decide
      exact unwrapType_word_append word brackets enough
  | array element length ih =>
      rw [TypeName.toList_text_array] at enough ⊢
      exact ih wellFormed.1 (brackets.cons wellFormed.2) enough
  | mapping key value keyLeaves valueLeaves =>
      obtain ⟨fuel, rfl⟩ := Nat.exists_eq_succ_of_ne_zero (Nat.ne_zero_of_lt enough)
      have whole := TypeName.toList_text_mapping key value suffix
      have solid := (TypeName.solid_text wellFormed).append_brackets brackets
      obtain ⟨found, matched, keyPart, valuePart⟩ :=
        exists_matchAt_mappingType (TypeName.solid_text wellFormed.1)
          (TypeName.solid_text wellFormed.2.2) (TypeName.not_mem_text wellFormed.1 wellFormed.2.1)
          (fun member => brackets.plain ')' member (by simp)) whole
      rw [unwrapType_of_solid solid, matched]
      simp only [whole, List.length_append, List.length_cons] at enough
      have keyFound : unwrapType fuel (key.text.toList ++ []) = key.leaves :=
        keyLeaves wellFormed.1 .nil (by rw [List.append_nil]; omega)
      have valueFound : unwrapType fuel (value.text.toList ++ []) = value.leaves :=
        valueLeaves wellFormed.2.2 .nil (by rw [List.append_nil]; omega)
      rw [List.append_nil] at keyFound valueFound
      simp only [keyPart, valuePart, String.toList_ofList, keyFound, valueFound, TypeName.leaves]

-----------------------------------------------------------------------------------------
-- Nodes
-----------------------------------------------------------------------------------------

/-- What stands for the length of an array: a number, as text or as it is, or else a name, or
nothing.
-/
inductive LengthNode : Json → String → Prop
  | number {node} (given : (node.field "number").isNothing = false)
    : LengthNode node (node.field "number").text
  | name {node name} (missing : (node.field "number").isNothing = true)
    (given : node.field "name" = .str name)
    : LengthNode node name
  | none {node} (missing : (node.field "number").isNothing = true)
    (nameless : (node.field "name").isNothing = true)
    : LengthNode node ""

/-- A node of a syntax tree stands for a type. Other properties of the node do not matter. -/
inductive TypeNode : Json → TypeName → Prop
  | elementary {node name} (kind : kindOf node = some "ElementaryTypeName")
    (given : node.field "name" = .str name)
    : TypeNode node (.elementary name)
  | userDefined {node name} (kind : kindOf node = some "UserDefinedTypeName")
    (given : node.field "namePath" = .str name)
    : TypeNode node (.userDefined name)
  | function {node} (kind : kindOf node = some "FunctionTypeName") : TypeNode node .function
  | array {node element length} (kind : kindOf node = some "ArrayTypeName")
    (inner : TypeNode (node.field "baseTypeName") element)
    (sized : LengthNode (node.field "length") length)
    : TypeNode node (.array element length)
  | mapping {node key value} (kind : kindOf node = some "Mapping")
    (source : TypeNode (node.field "keyType") key)
    (target : TypeNode (node.field "valueType") value)
    : TypeNode node (.mapping key value)

/-- The texts of the properties of a node are found under their names, by induction on the
properties.
-/
theorem lookup_typeTexts (fields : List (String × Json)) (name : String)
    : (typeTexts fields).lookup name = (fields.lookup name).map typeText := by
  induction fields with
  | nil => rfl
  | cons field rest ih =>
      obtain ⟨other, value⟩ := field
      rw [typeTexts, List.lookup_cons, List.lookup_cons, ih]
      split <;> rfl

/-- A node of a kind is rendered with the texts of its properties. -/
theorem exists_typeText_of_kind {node : Json} {kind : String} (known : kindOf node = some kind)
    : ∃ parts,
        typeText node = renderType kind node parts
        ∧ ∀ name, partText parts name = (typeText (node.field name)).text := by
  cases node with
  | obj fields =>
      refine ⟨typeTexts fields, ?_, ?_⟩
      · rw [typeText, known]
      · intro name
        rw [partText, lookup_typeTexts, Json.field, Json.field?]
        cases fields.lookup name <;> rfl
  | null | bool _ | int _ | double _ | str _ | arr _ => cases known

/-- A string is kept, or replaced by the empty one if it is empty. -/
theorem orElse_str (name : String) : (Json.str name).orElse (.str "") = .str name := by
  by_cases none : name = ""
  · rw [none]
    rfl
  · rw [Json.orElse, Json.isNothing, if_neg (by simpa using none)]

/-- A length is written as its text. -/
theorem LengthNode.arrayLengthText_eq {node : Json} (stands : LengthNode node length)
    : arrayLengthText node = length := by
  rw [arrayLengthText]
  cases stands with
  | number given => simp [Json.orElse, given]
  | name missing given =>
      have nameTaken : (node.field "number").orElse (node.field "name") = .str length := by
        rw [Json.orElse, if_pos missing, given]
      rw [nameTaken, orElse_str]
      rfl
  | none missing nameless =>
      simp [Json.orElse, missing, nameless]
      rfl

/-- A node is rendered as the type that it stands for is written. Induction on the type. -/
theorem TypeNode.typeText_eq {node : Json} (stands : TypeNode node type)
    : typeText node = .str type.text := by
  induction stands with
  | elementary kind given =>
      obtain ⟨parts, rendered, -⟩ := exists_typeText_of_kind kind
      rw [rendered, renderType, given, orElse_str, TypeName.text]
  | userDefined kind given =>
      obtain ⟨parts, rendered, -⟩ := exists_typeText_of_kind kind
      rw [rendered, renderType, given, orElse_str, TypeName.text]
  | function kind =>
      obtain ⟨parts, rendered, -⟩ := exists_typeText_of_kind kind
      rw [rendered, renderType, TypeName.text]
  | array kind inner sized element =>
      obtain ⟨parts, rendered, part⟩ := exists_typeText_of_kind kind
      rw [rendered, renderType, part, element, sized.arrayLengthText_eq]
      rfl
  | mapping kind source target key value =>
      obtain ⟨parts, rendered, part⟩ := exists_typeText_of_kind kind
      rw [rendered, renderType, part, part, key, value]
      rfl

/-- Rendering a type and taking the text apart gives the names at the leaves of the type, from left
to right: for every node that stands for a type, however deep it is nested, if its names are names
and no key of a mapping has a mapping in it.
-/
theorem leafNames_typeText {node : Json} (stands : TypeNode node type)
    (wellFormed : type.IsWellFormed)
    : ∃ text, typeText node = .str text ∧ leafNames text = type.leaves := by
  refine ⟨type.text, stands.typeText_eq, ?_⟩
  have unwrapped := unwrapType_text wellFormed .nil (Nat.lt_succ_self _)
  rwa [List.append_nil] at unwrapped

/-- A name of a type as a node. -/
def nameNode (kind property name : String) : Json :=
  .obj [("type", .str kind), (property, .str name)]

/-- Mappings in arrays in mappings in arrays, with all sorts of length. -/
def ledgerNode : Json :=
  .obj
    [("type", .str "ArrayTypeName"),
     ("length", .null),
     ("baseTypeName",
      .obj
        [("type", .str "Mapping"),
         ("keyType", nameNode "ElementaryTypeName" "name" "address"),
         ("valueType",
          .obj
            [("type", .str "ArrayTypeName"),
             ("length", nameNode "Identifier" "name" "COUNT"),
             ("baseTypeName",
              .obj
                [("type", .str "Mapping"),
                 ("keyType", nameNode "UserDefinedTypeName" "namePath" "Vault.Id"),
                 ("valueType",
                  .obj
                    [("type", .str "ArrayTypeName"),
                     ("length", nameNode "NumberLiteral" "number" "3"),
                     ("baseTypeName", nameNode "UserDefinedTypeName" "namePath" "Pool")])])])])]

/-- The type of this node. -/
def ledgerType : TypeName :=
  .array
    (.mapping (.elementary "address")
      (.array (.mapping (.userDefined "Vault.Id") (.array (.userDefined "Pool") "3")) "COUNT"))
    ""

/-- The leaves of a type are found through all its layers. -/
theorem leafNames_typeText_ledger
    : TypeNode ledgerNode ledgerType
      ∧ ledgerType.IsWellFormed
      ∧ ∃ text,
          typeText ledgerNode = .str text
          ∧ text = "mapping(address => mapping(Vault.Id => Pool[3])[COUNT])[]"
          ∧ leafNames text = ["address", "Vault.Id", "Pool"] := by
  have stands : TypeNode ledgerNode ledgerType := by
    refine .array rfl (.mapping rfl (.elementary rfl rfl) ?_) (.none rfl rfl)
    refine .array rfl (.mapping rfl (.userDefined rfl rfl) ?_) (.name rfl rfl)
    exact .array rfl (.userDefined rfl rfl) (.number rfl)
  have wellFormed : ledgerType.IsWellFormed := by decide
  obtain ⟨text, rendered, leaves⟩ := leafNames_typeText stands wellFormed
  refine ⟨stands, wellFormed, text, rendered, ?_, leaves⟩
  exact Json.str.inj (rendered.symm.trans stands.typeText_eq)

end SolidityAtlas
