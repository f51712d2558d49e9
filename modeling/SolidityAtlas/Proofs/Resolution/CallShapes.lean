import SolidityAtlas.Resolution.Calls
import SolidityAtlas.Proofs.KeyedList
import SolidityAtlas.Proofs.Pattern.Words
import Mathlib.Data.List.Infix

/-! What the shapes of calls match. A call is a name, white space and an opening parenthesis, so a
text that starts with a call starts with one only, and calls of bare names have no character in
common. The scan for bare calls therefore finds all of them, those of names that start with an
underscore among them, so the scan for the latter adds no call to the list.
-/

namespace SolidityAtlas

open Pattern Text Vocabulary

variable {text front name blanks rest : List Char} {here stop : Cursor} {body : Pattern}
  {found : Match} {starts : Char → Bool} {c : Char}

-----------------------------------------------------------------------------------------
-- Calls in a text
-----------------------------------------------------------------------------------------

/-- A name that is called behind a text, with white space in front of the parenthesis: it is no
member of what stands in front of it.
-/
structure IsBareCall (front name blanks : List Char) : Prop where
  name : IsName isLowerStart name
  blank : ∀ c ∈ blanks, isSpace c = true
  apart : ∀ c ∈ front.getLast?, isMemberLead c = false

/-- A text has a bare call of a name. -/
def HasBareCall (text name : List Char) : Prop :=
  ∃ front blanks rest,
    text = front ++ (name ++ (blanks ++ '(' :: rest)) ∧ IsBareCall front name blanks

/-- What follows a name that is called does not go on with the name. -/
theorem isIdentifierPart_of_behind (blank : ∀ c ∈ blanks, isSpace c = true)
    (member : c ∈ (blanks ++ '(' :: rest).head?)
    : isIdentifierPart c = false := by
  rw [Bool.eq_false_iff]
  intro inside
  cases blanks with
  | nil =>
      obtain rfl : '(' = c := Option.some.inj member
      cases inside
  | cons first blanks =>
      obtain rfl : first = c := Option.some.inj member
      have other := isWord_of_isSpace (blank first List.mem_cons_self)
      rw [isWord_of_isIdentifierPart inside] at other
      cases other

/-- A text that starts with characters of a class, up to the first one that is none, does so in one
way.
-/
theorem eq_of_append_eq_append {accepts : Char → Bool} {front' rest' : List Char}
    (all : ∀ c ∈ front, accepts c = true) (ends : ∀ c ∈ rest.head?, accepts c = false)
    (all' : ∀ c ∈ front', accepts c = true) (ends' : ∀ c ∈ rest'.head?, accepts c = false)
    (same : front ++ rest = front' ++ rest')
    : front = front' ∧ rest = rest' := by
  have taken {front rest : List Char} (all : ∀ c ∈ front, accepts c = true)
      (ends : ∀ c ∈ rest.head?, accepts c = false)
      : (front ++ rest).takeWhile accepts = front := by
    rw [List.takeWhile_append_of_pos all]
    cases rest with
    | nil => simp
    | cons c rest => simp [ends c rfl]
  obtain rfl : front = front' := by rw [← taken all ends, same, taken all' ends']
  exact ⟨rfl, List.append_cancel_left same⟩

/-- A text that starts with a call starts with one call only. -/
theorem eq_of_call_eq_call {name' blanks' rest' : List Char}
    (plain : ∀ c ∈ name, isIdentifierPart c = true) (blank : ∀ c ∈ blanks, isSpace c = true)
    (plain' : ∀ c ∈ name', isIdentifierPart c = true) (blank' : ∀ c ∈ blanks', isSpace c = true)
    (same : name ++ (blanks ++ '(' :: rest) = name' ++ (blanks' ++ '(' :: rest'))
    : name = name' ∧ blanks = blanks' ∧ rest = rest' := by
  obtain ⟨rfl, behind⟩ := eq_of_append_eq_append plain (fun _ => isIdentifierPart_of_behind blank)
    plain' (fun _ => isIdentifierPart_of_behind blank') same
  obtain ⟨rfl, parenthesis⟩ :=
    eq_of_append_eq_append blank (by simp; decide) blank' (by simp; decide) behind
  exact ⟨rfl, rfl, (List.cons.inj parenthesis).2⟩

/-- A name does not start inside of what follows another name that is called. -/
theorem IsBareCall.not_behind {tail : List Char} (call : IsBareCall front name blanks)
    (blank : ∀ c ∈ tail, isSpace c = true)
    : name ++ text ≠ tail ++ '(' :: rest := by
  obtain ⟨c, letters, rfl⟩ := List.exists_cons_of_ne_nil call.name.some
  intro same
  have first : c ∈ (tail ++ '(' :: rest).head? := by
    rw [← same]
    rfl
  have behind := isIdentifierPart_of_behind blank first
  rw [call.name.plain c List.mem_cons_self] at behind
  cases behind

/-- A bare call that starts in front of another one ends in front of it: its name is called itself,
so the other one starts behind the parenthesis.
-/
theorem IsBareCall.before {front' name' blanks' rest' : List Char}
    (first : IsBareCall front name blanks) (second : IsBareCall front' name' blanks')
    (same
      : front ++ (name ++ (blanks ++ '(' :: rest))
        = front' ++ (name' ++ (blanks' ++ '(' :: rest')))
    (earlier : front.length < front'.length)
    : front.length + name.length + blanks.length + 1 ≤ front'.length := by
  rcases List.append_eq_append_iff.mp same with ⟨between, rfl, ahead⟩ | ⟨between, rfl, -⟩
  · rcases List.append_eq_append_iff.mp ahead with ⟨more, rfl, behind⟩ | ⟨more, rfl, -⟩
    · rcases List.append_eq_append_iff.mp behind with ⟨more', rfl, split⟩ | ⟨more', rfl, split⟩
      · cases more' with
        | nil =>
            have alone : name' ++ (blanks' ++ '(' :: rest') = [] ++ '(' :: rest := split.symm
            exact absurd alone (second.not_behind (by simp))
        | cons parenthesis more' =>
            simp only [List.length_append, List.length_cons]
            omega
      · refine absurd split (second.not_behind fun c member => first.blank c ?_)
        exact List.mem_append_right more member
    · -- the other name would start inside of the first one, so it would be a part of a name
      have given : between ≠ [] := by
        rintro rfl
        simp at earlier
      have last : (front ++ between).getLast? = some (between.getLast given) := by
        rw [List.getLast?_append, List.getLast?_eq_some_getLast given, Option.some_or]
      have inside := first.name.isWord _ (List.mem_append_left more (List.getLast_mem given))
      have lead := second.apart _ last
      simp [isMemberLead, inside] at lead
  · simp only [List.length_append] at earlier
    omega

-----------------------------------------------------------------------------------------
-- Shapes
-----------------------------------------------------------------------------------------

/-- The shape of a call of names that a pattern spells, behind something. -/
def callOf (body : Pattern) : Pattern :=
  sequence [.capture 1 body, spaces, char '(']

/-- White space and a parenthesis are passed behind a name. -/
theorem mem_ways_spaces_char_iff
    : stop ∈ (sequence [spaces, char '(']).ways here
      ↔ ∃ blanks rest,
          here.rest = blanks ++ '(' :: rest
          ∧ (∀ c ∈ blanks, isSpace c = true)
          ∧ stop = here.pass (blanks ++ ['(']) := by
  rw [mem_ways_iff_spells (by simp)]
  constructor
  · rintro ⟨passed, rest, ahead, spelled, rfl⟩
    obtain ⟨blanks, blank, rfl⟩
        : ∃ blanks, (∀ c ∈ blanks, isSpace c = true) ∧ passed = blanks ++ ['('] := by
      simpa [and_comm] using spelled
    exact ⟨blanks, rest, by simpa using ahead, blank, rfl⟩
  · rintro ⟨blanks, rest, ahead, blank, rfl⟩
    exact ⟨blanks ++ ['('], rest, by simpa using ahead, by simpa using blank, rfl⟩

/-- A call is passed from its name on, up to the parenthesis, and its name is captured. -/
theorem mem_ways_callOf_iff (plain : body.IsPlain)
    : stop ∈ (callOf body).ways here
      ↔ ∃ name blanks rest,
          here.rest = name ++ (blanks ++ '(' :: rest)
          ∧ body.Spells name
          ∧ (∀ c ∈ blanks, isSpace c = true)
          ∧ stop = (here.capture 1 (here.pass name)).pass (blanks ++ ['(']) := by
  rw [callOf, mem_ways_sequence_cons]
  constructor
  · rintro ⟨mid, captured, onward⟩
    obtain ⟨inner, reached, rfl⟩ := mem_ways_capture.mp captured
    obtain ⟨name, behind, ahead, spelled, rfl⟩ := (mem_ways_iff_spells plain).mp reached
    obtain ⟨blanks, rest, split, blank, rfl⟩ := mem_ways_spaces_char_iff.mp onward
    rw [Cursor.capture, Cursor.rest_pass ahead] at split
    exact ⟨name, blanks, rest, split ▸ ahead, spelled, blank, rfl⟩
  · rintro ⟨name, blanks, rest, ahead, spelled, blank, rfl⟩
    refine ⟨here.capture 1 (here.pass name), mem_ways_capture.mpr ⟨here.pass name, ?_, rfl⟩, ?_⟩
    · exact (mem_ways_iff_spells plain).mpr ⟨name, _, ahead, spelled, rfl⟩
    · refine mem_ways_spaces_char_iff.mpr ⟨blanks, rest, ?_, blank, rfl⟩
      rw [Cursor.capture, Cursor.rest_pass ahead]

/-- What a scan for calls finds at the start of one. -/
def callMatch (front name blanks rest : List Char) : Match :=
  { start := front.length
    stop := front.length + name.length + blanks.length + 1
    groups := [(1, { rest := name ++ (blanks ++ '(' :: rest), length := name.length })] }

/-- The name is what was captured. -/
theorem group_callMatch : (callMatch front name blanks rest).group 1 = String.ofList name := by
  rw [Match.group, Match.group?, callMatch]
  simp [Captured.text]

/-- The shape of a call of names that are no members of anything. -/
def bareCallOf (body : Pattern) : Pattern :=
  sequence [.notAfter isMemberLead, .capture 1 body, spaces, char '(']

/-- A match of a shape of bare calls is one at the place where it starts. -/
theorem exists_of_matchAt_bareCallOf {offset : Nat} (plain : body.IsPlain)
    (names : ∀ text, body.Spells text → IsName isLowerStart text)
    (matched : (bareCallOf body).matchAt (.atOffset text offset) = some found)
    (inside : offset ≤ text.length)
    : ∃ front name blanks rest,
        text = front ++ (name ++ (blanks ++ '(' :: rest))
        ∧ IsBareCall front name blanks
        ∧ found = callMatch front name blanks rest
        ∧ front.length = offset := by
  obtain ⟨stop, member, rfl⟩ := exists_mem_ways_of_matchAt matched
  obtain ⟨mid, tested, onward⟩ := mem_ways_sequence_cons.mp member
  simp only [ways, List.mem_ite_nil_left, List.mem_singleton] at tested
  obtain ⟨apart, rfl⟩ := tested
  obtain ⟨name, blanks, rest, ahead, spelled, blank, rfl⟩ := (mem_ways_callOf_iff plain).mp onward
  have stands := Cursor.standsBehind_atOffset text offset
  have length : (text.take offset).length = offset := List.length_take_of_le inside
  refine ⟨text.take offset, name, blanks, rest, ?_, ⟨names name spelled, blank, ?_⟩, ?_, length⟩
  · rw [← ahead, ← stands.split]
  · rwa [stands.before, Bool.not_eq_true, Option.any_eq_false] at apart
  · simp [callMatch, Cursor.capture, Cursor.pass, length, ahead, Nat.add_assoc]

/-- A bare call is matched where it starts. -/
theorem matchAt_bareCallOf (plain : body.IsPlain)
    (names : ∀ text, body.Spells text → IsName isLowerStart text) (spelled : body.Spells name)
    (call : IsBareCall front name blanks)
    : (bareCallOf body).matchAt
          (.atOffset (front ++ (name ++ (blanks ++ '(' :: rest))) front.length)
        = some (callMatch front name blanks rest) := by
  let here : Cursor :=
    .atOffset (front ++ (name ++ (blanks ++ '(' :: rest))) front.length
  have ahead : here.rest = name ++ (blanks ++ '(' :: rest) := by simp [here, Cursor.atOffset_append]
  have way : ∃ stop, stop ∈ (bareCallOf body).ways here := by
    refine ⟨_, mem_ways_sequence_cons.mpr ⟨here, ?_, (mem_ways_callOf_iff plain).mpr
      ⟨name, blanks, rest, ahead, spelled, call.blank, rfl⟩⟩⟩
    have apart : here.before.any isMemberLead = false := by
      rw [Option.any_eq_false]
      simpa [here, Cursor.atOffset_append] using call.apart
    simp [ways, apart]
  obtain ⟨found, matched⟩ := Option.isSome_iff_exists.mp (isSome_matchAt_iff.mpr way)
  obtain ⟨front', name', blanks', rest', split, call', rfl, length⟩ :=
    exists_of_matchAt_bareCallOf plain names matched (by simp)
  obtain ⟨rfl, same⟩ := List.append_inj split length.symm
  obtain ⟨rfl, rfl, rfl⟩ :=
    eq_of_call_eq_call call.name.plain call.blank call'.name.plain call'.blank same
  exact matched

/-- The scan for bare calls finds them and nothing else. -/
theorem mem_findAll_directCall_iff
    : found ∈ directCall.findAll text
      ↔ ∃ front name blanks rest,
          text = front ++ (name ++ (blanks ++ '(' :: rest))
          ∧ IsBareCall front name blanks
          ∧ found = callMatch front name blanks rest := by
  have names (text : List Char) : lowerName.Spells text → IsName isLowerStart text :=
    spells_lowerName.mp
  constructor
  · intro member
    obtain ⟨front, name, blanks, rest, split, call, same, -⟩ :=
      exists_of_matchAt_bareCallOf plain_lowerName names (matchAt_of_mem_findAll member)
        (start_le_of_mem_findAll member)
    exact ⟨front, name, blanks, rest, split, call, same⟩
  · rintro ⟨front, name, blanks, rest, rfl, call, rfl⟩
    have spelled : lowerName.Spells name := spells_lowerName.mpr call.name
    refine mem_findAll_of_clear (matchAt_bareCallOf plain_lowerName names spelled call) ?_
    intro offset earlier before matched
    obtain ⟨front', name', blanks', rest', split, call', rfl, rfl⟩ :=
      exists_of_matchAt_bareCallOf plain_lowerName names matched (by simp; omega)
    exact call'.before call split.symm before

/-- What is matched as a call of a name with an underscore in front is a bare call. -/
theorem exists_of_matchAt_underscoreCall {offset : Nat}
    (matched : underscoreCall.matchAt (.atOffset text offset) = some found)
    (inside : offset ≤ text.length)
    : ∃ front name blanks rest,
        text = front ++ (name ++ (blanks ++ '(' :: rest))
        ∧ IsBareCall front name blanks
        ∧ found = callMatch front name blanks rest
        ∧ front.length = offset := by
  refine exists_of_matchAt_bareCallOf (by simp) (fun name spelled => ?_) matched inside
  obtain ⟨letters, ⟨-, plain⟩, rfl⟩
      : ∃ letters,
          (letters ≠ [] ∧ ∀ c ∈ letters, isIdentifierPart c = true) ∧ name = '_' :: letters := by
    simpa [and_comm] using spelled
  exact ⟨rfl, List.forall_mem_cons.mpr ⟨rfl, plain⟩⟩

/-- The scan for calls of names with an underscore in front finds some of the bare calls. -/
theorem mem_findAll_directCall_of_underscoreCall (member : found ∈ underscoreCall.findAll text)
    : found ∈ directCall.findAll text := by
  obtain ⟨front, name, blanks, rest, split, call, same, -⟩ :=
    exists_of_matchAt_underscoreCall (matchAt_of_mem_findAll member)
      (start_le_of_mem_findAll member)
  exact mem_findAll_directCall_iff.mpr ⟨front, name, blanks, rest, split, call, same⟩

/-- A text with a call of a name with an underscore in front has a bare call. -/
theorem occursIn_directCall_of_underscoreCall (occurs : underscoreCall.occursIn text = true)
    : directCall.occursIn text = true := by
  obtain ⟨front, rest, rfl, way⟩ := occursIn_iff.mp occurs
  obtain ⟨found, matched⟩ := Option.isSome_iff_exists.mp (isSome_matchAt_iff.mpr way)
  obtain ⟨front', name, blanks, behind, split, call, -, length⟩ :=
    exists_of_matchAt_underscoreCall matched (by simp)
  refine occursIn_iff.mpr ⟨front, rest, rfl, isSome_matchAt_iff.mp ?_⟩
  have bare : directCall.matchAt (.atOffset (front ++ rest) front.length)
      = some (callMatch front' name blanks behind) := by
    rw [split, ← length]
    exact matchAt_bareCallOf plain_lowerName (fun _ => spells_lowerName.mp)
      (spells_lowerName.mpr call.name) call
  rw [bare]
  rfl

-----------------------------------------------------------------------------------------
-- Calls in lines
-----------------------------------------------------------------------------------------

variable {patterns : List (String × Pattern)} {caller : Option String} {number first : Int}
  {line : List Char} {lines : List (List Char)} {call : CallSite}

/-- The calls in a line are those that patterns match, but for the ones that are left out. -/
theorem mem_callsInLine_iff
    : call ∈ callsInLine patterns caller number line
      ↔ (∃ key pattern found,
          (key, pattern) ∈ patterns
          ∧ found ∈ Pattern.findAll pattern line
          ∧ callAt key number line found = call)
        ∧ caller ≠ some call.name
        ∧ isSkippedCall call.name line = false := by
  simp [callsInLine]

/-- A call in a line is at this line. -/
theorem line_of_mem_callsInLine (member : call ∈ callsInLine patterns caller number line)
    : call.location.first.line = number := by
  obtain ⟨⟨key, pattern, found, -, -, rfl⟩, -⟩ := mem_callsInLine_iff.mp member
  rfl

/-- The calls in lines are the calls in each of them, by induction on the lines. -/
theorem mem_callsInLines_iff
    : call ∈ callsInLines patterns caller first lines
      ↔ ∃ (number : Nat) (line : List Char),
          lines[number]? = some line
          ∧ call ∈ callsInLine patterns caller (first + number) line := by
  induction lines generalizing first with
  | nil => simp [callsInLines]
  | cons line rest ih =>
      have moved (number : Nat) : first + ((number + 1 : Nat) : Int) = first + 1 + number := by
        omega
      rw [callsInLines, List.mem_append, ih]
      constructor
      · rintro (here | ⟨number, other, known, inside⟩)
        · exact ⟨0, line, rfl, by simpa using here⟩
        · exact ⟨number + 1, other, by simpa using known, by rwa [moved]⟩
      · rintro ⟨number, other, known, inside⟩
        cases number with
        | zero =>
            obtain rfl : line = other := Option.some.inj known
            exact .inl (by simpa using inside)
        | succ number => exact .inr ⟨number, other, by simpa using known, by rwa [← moved]⟩

/-- The shapes of calls, but for the one of names that start with an underscore. -/
def wideCallShapes : List (String × Pattern) :=
  [("direct", directCall), ("this", thisCall)]

/-- A call of a name that starts with an underscore is found as a bare call. -/
theorem mem_callsInLine_wideCallShapes
    (member : call ∈ callsInLine [("internal", underscoreCall)] caller number line)
    : call ∈ callsInLine wideCallShapes caller number line := by
  obtain ⟨⟨key, pattern, found, shape, matched, rfl⟩, kept⟩ := mem_callsInLine_iff.mp member
  obtain ⟨rfl, rfl⟩ := Prod.mk.inj (List.mem_singleton.mp shape)
  exact mem_callsInLine_iff.mpr
    ⟨⟨"direct", directCall, found, List.mem_cons_self,
      mem_findAll_directCall_of_underscoreCall matched, rfl⟩, kept⟩

/-- The shape of calls of names that start with an underscore adds no call. Induction on the lines:
what it finds in a line has been seen in this line.
-/
theorem distinctFrom_callsInLines (seen : List (Int × String))
    : distinctFrom CallSite.key seen (callsInLines callShapes caller first lines)
      = distinctFrom CallSite.key seen (callsInLines wideCallShapes caller first lines) := by
  induction lines generalizing first seen with
  | nil => rfl
  | cons line rest ih =>
      have split
          : callsInLine callShapes caller first line
            = callsInLine wideCallShapes caller first line
              ++ callsInLine [("internal", underscoreCall)] caller first line := by
        simp [callsInLine, callShapes, wideCallShapes]
      rw [callsInLines, callsInLines, split, List.append_assoc]
      refine distinctFrom_append_congr fun more _ all => ?_
      rw [distinctFrom_append_of_seen]
      · exact ih more
      · exact fun call member => all call (mem_callsInLine_wideCallShapes member)

end SolidityAtlas
