import SolidityAtlas.Resolution.Calls
import SolidityAtlas.Proofs.Text.Trim
import Mathlib.Algebra.Ring.Int.Defs
import Mathlib.Data.List.Infix

/-! The arguments of a call as text and back. Arguments that are joined with commas are found again,
whether or not the parenthesis that closes the call stands behind them. In any text at all, also one
that is cut off, what is found is an argument of its own: taking it apart once more gives it back.
-/

namespace SolidityAtlas

variable {c : Char} {depth : Nat} {text piece front back read rest : List Char}

-----------------------------------------------------------------------------------------
-- Brackets
-----------------------------------------------------------------------------------------

/-- Whether a character is a bracket that opens. -/
def isOpening (c : Char) : Bool :=
  c = '(' ∨ c = '[' ∨ c = '\x7b'

/-- Whether a character is a bracket that closes. -/
def isClosing (c : Char) : Bool :=
  c = ')' ∨ c = ']' ∨ c = '\x7d'

/-- By how much a character changes the number of open brackets. -/
def bracketStep (c : Char) : Int :=
  if isOpening c then 1 else if isClosing c then -1 else 0

/-- How many more brackets open in a text than close, whatever their sorts. -/
def nesting (text : List Char) : Int :=
  (text.map bracketStep).sum

/-- A text that is read with so many brackets open stays inside of them: no bracket closes in it
that was not opened, and no comma stands where all brackets are closed.
-/
structure StaysInside (depth : Int) (text : List Char) : Prop where
  opened : ∀ front, front <+: text → 0 ≤ depth + nesting front
  commas : ∀ front, front ++ [','] <+: text → depth + nesting front ≠ 0

instance {depth : Int} : Decidable (StaysInside depth text) :=
  decidable_of_iff
    ((∀ front ∈ text.inits, 0 ≤ depth + nesting front)
      ∧ ∀ front ∈ text.inits, front ++ [','] <+: text → depth + nesting front ≠ 0)
    ⟨fun ⟨opened, commas⟩ =>
      ⟨fun front begins => opened front ((List.mem_inits _ _).mpr begins),
        fun front comma =>
          commas front ((List.mem_inits _ _).mpr ((List.prefix_append _ _).trans comma)) comma⟩,
    fun inside =>
      ⟨fun front begins => inside.opened front ((List.mem_inits _ _).mp begins),
        fun front _ comma => inside.commas front comma⟩⟩

/-- A text that can stand as an argument: some text without white space around it, with balanced
brackets and no comma outside of them.
-/
structure IsArgument (text : List Char) : Prop where
  some : text ≠ []
  trimmed : Text.IsTrimmed text
  inside : StaysInside 0 text
  closed : nesting text = 0

instance : Decidable (IsArgument text) :=
  decidable_of_iff
    (text ≠ [] ∧ Text.IsTrimmed text ∧ StaysInside 0 text ∧ nesting text = 0)
    ⟨fun ⟨given, trimmed, inside, closed⟩ => ⟨given, trimmed, inside, closed⟩,
    fun argument => ⟨argument.some, argument.trimmed, argument.inside, argument.closed⟩⟩

@[simp] theorem nesting_nil : nesting [] = 0 := rfl

@[simp] theorem nesting_cons (c : Char) (text : List Char)
    : nesting (c :: text) = bracketStep c + nesting text := by
  simp [nesting]

@[simp] theorem nesting_append (front back : List Char)
    : nesting (front ++ back) = nesting front + nesting back := by
  simp [nesting]

/-- White space is no bracket. -/
theorem bracketStep_of_isSpace (blank : Text.isSpace c = true) : bracketStep c = 0 := by
  have other : ∀ bracket, Text.isSpace bracket = false → c ≠ bracket := by
    rintro bracket solid rfl
    rw [blank] at solid
    cases solid
  have notOpening : isOpening c = false := by
    simp [isOpening, other '(' rfl, other '[' rfl, other '\x7b' rfl]
  have notClosing : isClosing c = false := by
    simp [isClosing, other ')' rfl, other ']' rfl, other '\x7d' rfl]
  simp [bracketStep, notOpening, notClosing]

/-- White space leaves the number of open brackets as it is, by induction on it. -/
theorem nesting_of_blank (blank : ∀ c ∈ text, Text.isSpace c = true) : nesting text = 0 := by
  induction text with
  | nil => rfl
  | cons c rest ih =>
      rw [nesting_cons, bracketStep_of_isSpace (blank c List.mem_cons_self),
        ih fun other member => blank other (List.mem_cons_of_mem c member), Int.zero_add]

-----------------------------------------------------------------------------------------
-- Texts inside of brackets
-----------------------------------------------------------------------------------------

theorem staysInside_nil : StaysInside 0 [] where
  opened := by simp
  commas := by simp

/-- The start of such a text is such a text. -/
theorem StaysInside.of_append_left {depth : Int} (inside : StaysInside depth (front ++ back))
    : StaysInside depth front where
  opened := fun start begins => inside.opened start (begins.trans (List.prefix_append _ _))
  commas := fun start comma => inside.commas start (comma.trans (List.prefix_append _ _))

/-- The end of such a text is such a text, with the brackets open that its start leaves open. -/
theorem StaysInside.of_append_right {depth : Int} (inside : StaysInside depth (front ++ back))
    : StaysInside (depth + nesting front) back where
  opened := by
    intro start begins
    have whole := inside.opened (front ++ start) ((List.prefix_append_right_inj _).mpr begins)
    rwa [nesting_append, ← Int.add_assoc] at whole
  commas := by
    intro start comma
    have whole := inside.commas (front ++ start)
      (by rw [List.append_assoc]; exact (List.prefix_append_right_inj _).mpr comma)
    rwa [nesting_append, ← Int.add_assoc] at whole

/-- One more character keeps a text inside of brackets if it does not close one too many and is no
comma outside of them.
-/
theorem StaysInside.concat {depth : Int} (inside : StaysInside depth text)
    (opened : 0 ≤ depth + nesting text + bracketStep c)
    (comma : c = ',' → depth + nesting text ≠ 0)
    : StaysInside depth (text ++ [c]) where
  opened := by
    intro front begins
    rcases List.prefix_concat_iff.mp begins with rfl | earlier
    · simpa [Int.add_assoc] using opened
    · exact inside.opened front earlier
  commas := by
    intro front ends
    rcases List.prefix_concat_iff.mp ends with whole | earlier
    · obtain ⟨rfl, last⟩ := List.append_inj' whole rfl
      exact comma (List.singleton_inj.mp last).symm
    · exact inside.commas front earlier

/-- Such a text stays such a text without the white space around it. -/
theorem StaysInside.trim (inside : StaysInside 0 text) : StaysInside 0 (Text.trim text) := by
  obtain ⟨front, back, whole, blank, -⟩ := Text.exists_around_trim text
  rw [whole] at inside
  have onward := inside.of_append_right
  rw [nesting_of_blank blank, Int.add_zero] at onward
  exact onward.of_append_left

-----------------------------------------------------------------------------------------
-- Reading one character
-----------------------------------------------------------------------------------------

/-- Reading a character, by what it does to the brackets. -/
theorem argumentTexts_cons
    : argumentTexts depth read (c :: rest)
      = if isOpening c then argumentTexts (depth + 1) (c :: read) rest
        else if isClosing c then
          match depth with
          | 0 => [read.reverse]
          | depth + 1 => argumentTexts depth (c :: read) rest
        else if c = ',' ∧ depth = 0 then read.reverse :: argumentTexts 0 [] rest
        else argumentTexts depth (c :: read) rest := by
  cases depth <;> simp [argumentTexts, isOpening, isClosing]

/-- No bracket both opens and closes. -/
theorem isOpening_of_isClosing (closes : isClosing c = true) : isOpening c = false := by
  simp only [isClosing, decide_eq_true_eq] at closes
  rcases closes with rfl | rfl | rfl <;> rfl

/-- A character that stays inside of the brackets belongs to the text that is being read. -/
theorem argumentTexts_of_inside (read rest : List Char) (opened : 0 ≤ (depth : Int) + bracketStep c)
    (comma : c = ',' → depth ≠ 0)
    : ∃ after : Nat,
        (after : Int) = depth + bracketStep c
        ∧ argumentTexts depth read (c :: rest) = argumentTexts after (c :: read) rest := by
  rw [argumentTexts_cons]
  by_cases opens : isOpening c = true
  · exact ⟨depth + 1, by simp [bracketStep, opens], by rw [if_pos opens]⟩
  by_cases closes : isClosing c = true
  · have step : bracketStep c = -1 := by rw [bracketStep, if_neg opens, if_pos closes]
    cases depth with
    | zero => simp [step] at opened
    | succ depth => exact ⟨depth, by omega, by rw [if_neg opens, if_pos closes]⟩
  · refine ⟨depth, by simp [bracketStep, opens, closes], ?_⟩
    rw [if_neg opens, if_neg closes, if_neg fun ⟨same, outside⟩ => comma same outside]

/-- A bracket that closes more than was opened ends the arguments. -/
theorem argumentTexts_of_isClosing (closes : isClosing c = true)
    : argumentTexts 0 read (c :: rest) = [read.reverse] := by
  rw [argumentTexts_cons, if_neg (by simp [isOpening_of_isClosing closes]), if_pos closes]

/-- A comma outside of all brackets ends an argument. -/
theorem argumentTexts_comma
    : argumentTexts 0 read (',' :: rest) = read.reverse :: argumentTexts 0 [] rest := by
  simp [argumentTexts]

/-- Every character stays inside of the brackets, closes more than was opened, or is a comma outside
of all brackets.
-/
theorem inside_or_ends (depth : Nat) (c : Char)
    : (0 ≤ (depth : Int) + bracketStep c ∧ (c = ',' → depth ≠ 0))
      ∨ depth = 0 ∧ (isClosing c = true ∨ c = ',') := by
  by_cases comma : c = ','
  · subst comma
    have step : bracketStep ',' = 0 := rfl
    rcases Nat.eq_zero_or_pos depth with outside | inside
    · exact .inr ⟨outside, .inr rfl⟩
    · exact .inl ⟨by omega, fun _ => by omega⟩
  by_cases closes : isClosing c = true
  · rcases Nat.eq_zero_or_pos depth with outside | inside
    · exact .inr ⟨outside, .inl closes⟩
    · refine .inl ⟨?_, fun same => absurd same comma⟩
      rw [bracketStep]
      split_ifs <;> omega
  · refine .inl ⟨?_, fun same => absurd same comma⟩
    rw [bracketStep, if_neg closes]
    split_ifs <;> omega

-----------------------------------------------------------------------------------------
-- Reading whole texts
-----------------------------------------------------------------------------------------

/-- A text that stays inside of the brackets is read as a whole, by induction on it. -/
theorem argumentTexts_append (depth : Nat) (read rest : List Char)
    (inside : StaysInside depth text)
    : ∃ after : Nat,
        (after : Int) = depth + nesting text
        ∧ argumentTexts depth read (text ++ rest)
          = argumentTexts after (text.reverse ++ read) rest := by
  induction text generalizing depth read with
  | nil => exact ⟨depth, by simp, rfl⟩
  | cons c text ih =>
      have opened : 0 ≤ (depth : Int) + bracketStep c := by
        simpa using inside.opened [c] (List.prefix_append [c] text)
      have comma : c = ',' → depth ≠ 0 := by
        rintro rfl
        simpa using inside.commas [] (List.prefix_append [','] text)
      obtain ⟨next, counted, step⟩ :=
        argumentTexts_of_inside read (text ++ rest) opened comma
      have onward : StaysInside next text := by
        have whole : StaysInside depth ([c] ++ text) := inside
        have behind := whole.of_append_right
        rwa [nesting_cons, nesting_nil, Int.add_zero, ← counted] at behind
      obtain ⟨after, total, whole⟩ := ih next (c :: read) onward
      refine ⟨after, by rw [total, counted, nesting_cons, Int.add_assoc], ?_⟩
      rw [List.cons_append, step, whole, List.reverse_cons, List.append_assoc,
        List.singleton_append]

/-- What is read of any text stays inside of its brackets. Induction on the text: what has been read
so far stays inside of its brackets and leaves `depth` of them open.
-/
theorem staysInside_of_mem_argumentTexts (depth : Nat) (read : List Char)
    (inside : StaysInside 0 read.reverse) (left : nesting read.reverse = depth)
    (member : piece ∈ argumentTexts depth read text)
    : StaysInside 0 piece := by
  induction text generalizing depth read with
  | nil =>
      obtain rfl := List.mem_singleton.mp member
      exact inside
  | cons c rest ih =>
      rcases inside_or_ends depth c with ⟨opened, comma⟩ | ⟨rfl, closes | rfl⟩
      · obtain ⟨after, counted, onward⟩ := argumentTexts_of_inside read rest opened comma
        rw [onward] at member
        refine ih after (c :: read) ?_ ?_ member
        · rw [List.reverse_cons]
          exact inside.concat (by omega) fun same => by have := comma same; omega
        · simp only [List.reverse_cons, nesting_append, nesting_cons, nesting_nil]
          omega
      · rw [argumentTexts_of_isClosing closes] at member
        obtain rfl := List.mem_singleton.mp member
        exact inside
      · rw [argumentTexts_comma, List.mem_cons] at member
        rcases member with rfl | later
        · exact inside
        · exact ih 0 [] staysInside_nil rfl later

/-- A text that stays inside of its brackets is one argument, trimmed. -/
theorem argumentsOf_of_staysInside (given : text ≠ []) (trimmed : Text.IsTrimmed text)
    (inside : StaysInside 0 text)
    : argumentsOf text = [String.ofList text] := by
  obtain ⟨after, -, whole⟩ := argumentTexts_append 0 [] [] inside
  have only : argumentTexts 0 [] text = [text] := by
    simpa [argumentTexts] using whole
  simp [argumentsOf, only, trimmed.trim_eq, given]

-----------------------------------------------------------------------------------------
-- Joining and taking apart
-----------------------------------------------------------------------------------------

/-- What ends the arguments of a call: the end of the text or a closing parenthesis. -/
def EndsArguments (tail : List Char) : Prop :=
  tail = [] ∨ ∃ rest, tail = ')' :: rest

theorem EndsArguments.argumentTexts_eq {tail : List Char} (ends : EndsArguments tail)
    : argumentTexts 0 read tail = [read.reverse] := by
  rcases ends with rfl | ⟨rest, rfl⟩
  · rfl
  · exact argumentTexts_of_isClosing rfl

/-- An argument is read as a whole. -/
theorem IsArgument.argumentTexts_append (argument : IsArgument text)
    : argumentTexts 0 read (text ++ rest) = argumentTexts 0 (text.reverse ++ read) rest := by
  obtain ⟨after, counted, whole⟩ := SolidityAtlas.argumentTexts_append 0 read rest argument.inside
  rw [argument.closed] at counted
  obtain rfl : after = 0 := by omega
  exact whole

/-- White space that is read in front of an argument is trimmed. -/
theorem IsArgument.trim_eq (argument : IsArgument text) (blank : ∀ c ∈ read, Text.isSpace c = true)
    : Text.trim (text.reverse ++ read).reverse = text := by
  rw [List.reverse_append, List.reverse_reverse,
    Text.trim_append_left fun c member => blank c (List.mem_reverse.mp member),
    argument.trimmed.trim_eq]

/-- Joined arguments are read one by one, by induction on them. From the second one on, the blank
behind the comma has been read in front of the argument.
-/
theorem argumentTexts_intercalate (read : List Char) {texts : List (List Char)} {tail : List Char}
    (given : texts ≠ []) (each : ∀ text ∈ texts, IsArgument text)
    (blank : ∀ c ∈ read, Text.isSpace c = true) (ends : EndsArguments tail)
    : (argumentTexts 0 read ([',', ' '].intercalate texts ++ tail)).map Text.trim = texts := by
  induction texts generalizing read with
  | nil => exact absurd rfl given
  | cons text texts ih =>
      have first := each text List.mem_cons_self
      cases texts with
      | nil =>
          rw [List.intercalate_singleton, first.argumentTexts_append, ends.argumentTexts_eq,
            List.map_singleton, first.trim_eq blank]
      | cons next more =>
          have joined : [',', ' '].intercalate (text :: next :: more) ++ tail
              = text ++ ',' :: ' ' :: ([',', ' '].intercalate (next :: more) ++ tail) := by
            simp
          have space : argumentTexts 0 [] (' ' :: ([',', ' '].intercalate (next :: more) ++ tail))
              = argumentTexts 0 [' '] ([',', ' '].intercalate (next :: more) ++ tail) := by
            simp [argumentTexts_cons, isOpening, isClosing]
          have others := ih [' '] (List.cons_ne_nil next more)
            (fun other member => each other (List.mem_cons_of_mem text member))
            (List.forall_mem_singleton.mpr rfl)
          rw [joined, first.argumentTexts_append, argumentTexts_comma, space, List.map_cons,
            first.trim_eq blank, others]

/-- Joined arguments are found again. -/
theorem argumentsOf_intercalate {arguments : List String} {tail : List Char}
    (each : ∀ argument ∈ arguments, IsArgument argument.toList) (ends : EndsArguments tail)
    : argumentsOf ((", ".intercalate arguments).toList ++ tail) = arguments := by
  rw [argumentsOf, String.toList_intercalate]
  cases arguments with
  | nil => simp [ends.argumentTexts_eq, Text.trim, Text.trimBy, Text.trimEndBy]
  | cons first others =>
      have texts : ∀ text ∈ (first :: others).map String.toList, IsArgument text := by
        intro text member
        obtain ⟨argument, listed, rfl⟩ := List.mem_map.mp member
        exact each argument listed
      have read := argumentTexts_intercalate [] (by simp) texts (by simp) ends
      have kept
          : ((first :: others).map String.toList).filter (fun text => !text.isEmpty)
            = (first :: others).map String.toList := by
        refine List.filter_eq_self.mpr ?_
        intro text member
        simpa using (texts text member).some
      have separator : ", ".toList = [',', ' '] := rfl
      rw [separator, read, kept, List.map_map]
      simp

/-- Every argument of a text is some text without white space around it that stays inside of its
brackets.
-/
theorem exists_of_mem_argumentsOf {argument : String} (member : argument ∈ argumentsOf text)
    : argument.toList ≠ [] ∧ Text.IsTrimmed argument.toList ∧ StaysInside 0 argument.toList := by
  obtain ⟨content, kept, rfl⟩ := List.mem_map.mp member
  obtain ⟨trimmed, given⟩ := List.mem_filter.mp kept
  obtain ⟨piece, read, rfl⟩ := List.mem_map.mp trimmed
  rw [String.toList_ofList]
  have inside : StaysInside 0 piece :=
    staysInside_of_mem_argumentTexts 0 [] staysInside_nil rfl read
  exact ⟨by simpa using given, Text.isTrimmed_trim piece, inside.trim⟩

/-- Taking the arguments of a call apart undoes joining them with commas, whether or not a
parenthesis and more text stand behind them. The arguments found in any text whatsoever are some
text each, without white space around it and without a comma outside of its brackets, and stay as
they are when they are taken apart again.
-/
theorem argumentsOf_undoes_joining
    : (∀ arguments : List String,
        (∀ argument ∈ arguments, IsArgument argument.toList)
        → argumentsOf (", ".intercalate arguments).toList = arguments
          ∧ ∀ rest, argumentsOf ((", ".intercalate arguments).toList ++ ')' :: rest) = arguments)
      ∧ ∀ text, ∀ argument ∈ argumentsOf text,
          argument ≠ ""
          ∧ Text.IsTrimmed argument.toList
          ∧ StaysInside 0 argument.toList
          ∧ argumentsOf argument.toList = [argument] := by
  constructor
  · intro arguments each
    constructor
    · simpa using argumentsOf_intercalate each (.inl rfl)
    · exact fun rest => argumentsOf_intercalate each (.inr ⟨rest, rfl⟩)
  · intro text argument member
    obtain ⟨given, trimmed, inside⟩ := exists_of_mem_argumentsOf member
    have again := argumentsOf_of_staysInside given trimmed inside
    rw [String.ofList_toList] at again
    refine ⟨?_, trimmed, inside, again⟩
    rintro rfl
    exact given rfl

/-- A call in the arguments and a struct by its fields, and a call that the text leaves open. -/
theorem argumentsOf_nested
    : let arguments := ["a", "foo(b, c)", "Pair(\x7bx: 1, y: [d, e]\x7d)"]
      (∀ argument ∈ arguments, IsArgument argument.toList)
      ∧ argumentsOf "a, foo(b, c), Pair(\x7bx: 1, y: [d, e]\x7d)); bar(d, e)".toList = arguments
      ∧ "foo(b, c" ∈ argumentsOf " a,, foo(b, c ".toList
      ∧ argumentsOf "foo(b, c".toList = ["foo(b, c"] := by
  intro arguments
  have each : ∀ argument ∈ arguments, IsArgument argument.toList := by decide +kernel
  have listed : "foo(b, c" ∈ argumentsOf " a,, foo(b, c ".toList := by decide +kernel
  have whole : "a, foo(b, c), Pair(\x7bx: 1, y: [d, e]\x7d)); bar(d, e)".toList
      = (", ".intercalate arguments).toList ++ ')' :: "; bar(d, e)".toList := by
    decide +kernel
  obtain ⟨joined, separated⟩ := argumentsOf_undoes_joining
  exact ⟨each, whole ▸ (joined arguments each).2 "; bar(d, e)".toList, listed,
    (separated " a,, foo(b, c ".toList "foo(b, c" listed).2.2.2⟩

end SolidityAtlas
