import SolidityAtlas.Proofs.Pattern.Matches

/-! Which of its ways a pattern prefers. A repetition that prefers fewer characters stops at the
first place from which the rest of the pattern succeeds, one that prefers more stops at the last
such place, and a given text leads to the one place behind it.
-/

namespace SolidityAtlas

namespace Cursor

/-- The cursor behind as many characters as a text has. -/
def pass (here : Cursor) (front : List Char) : Cursor :=
  { offset := here.offset + front.length
    before := front.getLast?.or here.before
    rest := here.rest.drop front.length
    groups := here.groups }

variable {here stop : Cursor} {accepts : Char → Bool} {front more rest : List Char} {c : Char}

/-- Passing nothing stays at a cursor. -/
@[simp]
theorem pass_nil : here.pass [] = here := by
  simp [pass]

/-- What stands behind a text that was passed. -/
theorem rest_pass (stands : here.rest = front ++ rest) : (here.pass front).rest = rest := by
  rw [pass, stands, List.drop_left]

/-- Passing two texts is passing one after the other. -/
theorem pass_append : here.pass (front ++ more) = (here.pass front).pass more := by
  simp [pass, Nat.add_assoc, Option.or_assoc]

/-- The step over one character. -/
theorem pass_singleton (stands : here.rest = c :: rest)
    : here.pass [c]
      = { offset := here.offset + 1, before := some c, rest := rest, groups := here.groups } := by
  simp [pass, stands]

/-- At the end of the text there is the run that passes nothing. -/
theorem runs_nil (ended : here.rest = []) : here.runs accepts = [here] := by
  obtain ⟨offset, before, text, groups⟩ := here
  obtain rfl : text = [] := ended
  rfl

/-- The runs from a cursor are this cursor and the runs from behind the next character, if it is of
the class.
-/
theorem runs_cons (stands : here.rest = c :: rest)
    : here.runs accepts = here :: if accepts c then (here.pass [c]).runs accepts else [] := by
  obtain ⟨offset, before, text, groups⟩ := here
  obtain rfl : text = c :: rest := stands
  rw [pass_singleton rfl]
  rfl

/-- A run passes characters of the class. Induction on the text behind the cursor. -/
theorem exists_of_mem_runs (member : stop ∈ here.runs accepts)
    : ∃ front rest,
        here.rest = front ++ rest ∧ (∀ c ∈ front, accepts c = true) ∧ stop = here.pass front := by
  generalize ended : here.rest = text at *
  induction text generalizing here with
  | nil =>
      obtain ⟨offset, before, text, groups⟩ := here
      obtain rfl : text = [] := ended
      obtain rfl := List.mem_singleton.mp member
      exact ⟨[], [], rfl, by simp, pass_nil.symm⟩
  | cons c text ih =>
      rw [runs_cons ended, List.mem_cons] at member
      rcases member with rfl | onward
      · exact ⟨[], c :: text, rfl, by simp, pass_nil.symm⟩
      · split at onward
        · rename_i accepted
          obtain ⟨front, rest, split, all, rfl⟩ :=
            ih onward (rest_pass (by simpa using ended))
          refine ⟨c :: front, rest, by rw [split]; rfl, ?_, ?_⟩
          · simpa [accepted] using all
          · rw [← pass_append, List.singleton_append]
        · cases onward

/-- Passing text captures nothing. -/
@[simp]
theorem groups_pass : (here.pass front).groups = here.groups :=
  rfl

/-- The text that is passed can be captured. -/
@[simp]
theorem groups_capture_pass (group : Nat)
    : (here.capture group (here.pass front)).groups
      = (group, { rest := here.rest, length := front.length }) :: here.groups := by
  simp [capture, pass]

end Cursor

/-- The text of a part is what stands in front of its rest. -/
theorem Captured.text_of_append {here front rest : List Char} (stands : here = front ++ rest)
    : Captured.text { rest := here, length := front.length } = String.ofList front := by
  rw [Captured.text, stands, List.take_left]

namespace Pattern

variable {here stop : Cursor} {next : Cursor → Option Cursor} {accepts : Char → Bool}
  {front rest text : List Char} {c : Char}

-----------------------------------------------------------------------------------------
-- Given characters
-----------------------------------------------------------------------------------------

/-- A character of a class is passed. -/
theorem firstWay_one (stands : here.rest = c :: rest) (accepted : accepts c = true)
    : (one accepts).firstWay here next = next (here.pass [c]) := by
  rw [Cursor.pass_singleton stands, firstWay, stands]
  simp [accepted]

/-- A given character is passed. -/
theorem firstWay_char (stands : here.rest = c :: rest)
    : (char c).firstWay here next = next (here.pass [c]) :=
  firstWay_one stands (by simp)

/-- A given character that does not stand next is not passed. -/
theorem firstWay_char_eq_none (absent : here.rest.head? ≠ some c)
    : (char c).firstWay here next = none := by
  rw [char, firstWay]
  split
  · rfl
  · rename_i other rest stands
    have different : other ≠ c := by simpa [stands] using absent
    simp [different]

/-- A sequence is its first pattern and then the sequence of the others. -/
theorem firstWay_sequence_cons {pattern : Pattern} {patterns : List Pattern}
    : (sequence (pattern :: patterns)).firstWay here next
      = pattern.firstWay here fun mid => (sequence patterns).firstWay mid next := by
  cases patterns <;> rfl

/-- A given text is passed, by induction on the text. -/
theorem firstWay_literal (stands : here.rest = text ++ rest)
    : (sequence (text.map char)).firstWay here next = next (here.pass text) := by
  induction text generalizing here with
  | nil => rw [Cursor.pass_nil]; rfl
  | cons c text ih =>
      rw [List.map_cons, firstWay_sequence_cons, firstWay_char stands,
        ih (Cursor.rest_pass (by simpa using stands)), ← Cursor.pass_append]
      rfl

/-- A given text leads behind it and nowhere else, by induction on the text. -/
theorem eq_pass_of_mem_ways_literal (member : stop ∈ (sequence (text.map char)).ways here)
    : here.rest = text ++ stop.rest ∧ stop = here.pass text := by
  induction text generalizing here with
  | nil =>
      obtain rfl := List.mem_singleton.mp member
      exact ⟨rfl, Cursor.pass_nil.symm⟩
  | cons c text ih =>
      rw [List.map_cons, mem_ways_sequence_cons] at member
      obtain ⟨mid, reached, onward⟩ := member
      obtain ⟨found, rest, split, accepted, rfl⟩ := mem_ways_one.mp reached
      obtain rfl : found = c := of_decide_eq_true accepted
      obtain ⟨ahead, same⟩ := ih onward
      refine ⟨by rw [split, List.cons_append, ← ahead], ?_⟩
      rw [same, ← Cursor.pass_singleton split, ← Cursor.pass_append]
      rfl

-----------------------------------------------------------------------------------------
-- Repetition
-----------------------------------------------------------------------------------------

/-- A greedy repetition passes the next character, if it can, or else stops. -/
theorem firstWay_many_cons (stands : here.rest = c :: rest)
    : (many accepts).firstWay here next
      = (if accepts c then (many accepts).firstWay (here.pass [c]) next else none).or
          (next here) := by
  rw [firstWay, Cursor.runs_cons stands, List.reverse_cons, List.findSome?_append]
  split <;> simp [firstWay]

/-- A lazy repetition stops, if it can, or else passes the next character. -/
theorem firstWay_manyLazy_cons (stands : here.rest = c :: rest)
    : (manyLazy accepts).firstWay here next
      = (next here).or
          (if accepts c then (manyLazy accepts).firstWay (here.pass [c]) next else none) := by
  rw [firstWay, Cursor.runs_cons stands, List.findSome?_cons]
  split <;> split <;> simp [firstWay, *]

/-- A greedy repetition fails if the rest of the pattern fails from wherever it may stop. -/
theorem firstWay_many_eq_none
    (fails
      : ∀ front rest,
          here.rest = front ++ rest → (∀ c ∈ front, accepts c = true)
          → next (here.pass front) = none)
    : (many accepts).firstWay here next = none := by
  rw [firstWay, List.findSome?_eq_none_iff]
  intro stop member
  obtain ⟨front, rest, stands, all, rfl⟩ :=
    Cursor.exists_of_mem_runs (List.mem_reverse.mp member)
  exact fails front rest stands all

/-- A greedy repetition stops at the last place from which the rest of the pattern succeeds.
Induction on the text that is passed.
-/
theorem firstWay_many (stands : here.rest = front ++ rest) (all : ∀ c ∈ front, accepts c = true)
    (last
      : ∀ more after,
          rest = more ++ after → more ≠ [] → (∀ c ∈ more, accepts c = true)
          → next (here.pass (front ++ more)) = none)
    (found : next (here.pass front) = some stop)
    : (many accepts).firstWay here next = some stop := by
  induction front generalizing here with
  | nil =>
      rw [Cursor.pass_nil] at found
      cases ended : here.rest with
      | nil =>
          rw [firstWay, Cursor.runs_nil ended]
          simpa using found
      | cons c text =>
          have later (accepted : accepts c = true)
              : (many accepts).firstWay (here.pass [c]) next = none := by
            refine firstWay_many_eq_none ?_
            intro more after split others
            rw [Cursor.rest_pass (by simpa using ended)] at split
            rw [← Cursor.pass_append]
            rw [List.nil_append, ended, split] at stands
            exact last (c :: more) after stands.symm (by simp) (by simpa [accepted] using others)
          rw [firstWay_many_cons ended, ite_eq_right_iff.mpr later, Option.none_or, found]
  | cons c front ih =>
      have onward : (many accepts).firstWay (here.pass [c]) next = some stop := by
        refine ih (Cursor.rest_pass stands) (fun other member => all other (by simp [member])) ?_ ?_
        · intro more after split some others
          rw [← Cursor.pass_append]
          exact last more after split some others
        · rwa [← Cursor.pass_append]
      rw [firstWay_many_cons stands, if_pos (all c List.mem_cons_self), onward, Option.some_or]

/-- A lazy repetition stops at the first place from which the rest of the pattern succeeds.
Induction on the text that is passed.
-/
theorem firstWay_manyLazy (stands : here.rest = front ++ rest)
    (all : ∀ c ∈ front, accepts c = true)
    (first
      : ∀ before after, front = before ++ after → after ≠ [] → next (here.pass before) = none)
    (found : next (here.pass front) = some stop)
    : (manyLazy accepts).firstWay here next = some stop := by
  induction front generalizing here with
  | nil =>
      rw [Cursor.pass_nil] at found
      cases ended : here.rest with
      | nil =>
          rw [firstWay, Cursor.runs_nil ended]
          simpa using found
      | cons c text => rw [firstWay_manyLazy_cons ended, found, Option.some_or]
  | cons c front ih =>
      have here_fails : next here = none := by simpa using first [] (c :: front) rfl (by simp)
      rw [firstWay_manyLazy_cons stands, here_fails, Option.none_or,
        if_pos (all c List.mem_cons_self)]
      refine ih (Cursor.rest_pass stands) (fun other member => all other (by simp [member])) ?_ ?_
      · intro before after split some
        rw [← Cursor.pass_append]
        exact first (c :: before) after (by rw [split]; rfl) some
      · rwa [← Cursor.pass_append]

/-- One character or more, as few as possible: like a lazy repetition that passes a character. -/
theorem firstWay_oneOrMoreLazy (stands : here.rest = front ++ rest) (some : front ≠ [])
    (all : ∀ c ∈ front, accepts c = true)
    (first
      : ∀ before after,
          front = before ++ after → before ≠ [] → after ≠ [] → next (here.pass before) = none)
    (found : next (here.pass front) = .some stop)
    : (oneOrMoreLazy accepts).firstWay here next = .some stop := by
  obtain ⟨c, front, rfl⟩ := List.exists_cons_of_ne_nil some
  rw [oneOrMoreLazy, firstWay, firstWay_one stands (all c List.mem_cons_self)]
  refine firstWay_manyLazy (Cursor.rest_pass stands)
    (fun other member => all other (by simp [member])) ?_ ?_
  · intro before after split some
    rw [← Cursor.pass_append]
    exact first (c :: before) after (by rw [split]; rfl) (by simp) some
  · rwa [← Cursor.pass_append]

/-- One character or more, as many as possible: like a greedy repetition that passes a
character.
-/
theorem firstWay_oneOrMore (stands : here.rest = front ++ rest) (some : front ≠ [])
    (all : ∀ c ∈ front, accepts c = true)
    (last
      : ∀ more after,
          rest = more ++ after → more ≠ [] → (∀ c ∈ more, accepts c = true)
          → next (here.pass (front ++ more)) = none)
    (found : next (here.pass front) = .some stop)
    : (oneOrMore accepts).firstWay here next = .some stop := by
  obtain ⟨c, front, rfl⟩ := List.exists_cons_of_ne_nil some
  rw [oneOrMore, firstWay, firstWay_one stands (all c List.mem_cons_self)]
  refine firstWay_many (Cursor.rest_pass stands)
    (fun other member => all other (by simp [member])) ?_ ?_
  · intro more after split some others
    rw [← Cursor.pass_append]
    exact last more after split some others
  · rwa [← Cursor.pass_append]

-----------------------------------------------------------------------------------------
-- Characters that a match needs
-----------------------------------------------------------------------------------------

/-- A pattern leaves an end of the text that it started at. Induction on the pattern. -/
theorem isSuffix_of_mem_ways {pattern : Pattern} (member : stop ∈ pattern.ways here)
    : stop.rest <:+ here.rest := by
  induction pattern generalizing here stop with
  | empty =>
      obtain rfl := List.mem_singleton.mp member
      exact List.suffix_rfl
  | one accepts =>
      obtain ⟨c, rest, stands, -, rfl⟩ := mem_ways_one.mp member
      exact ⟨[c], stands.symm⟩
  | seq first second onFirst onSecond =>
      obtain ⟨mid, reached, onward⟩ := mem_ways_seq.mp member
      exact (onSecond onward).trans (onFirst reached)
  | alt first second onFirst onSecond =>
      rcases List.mem_append.mp member with early | late
      · exact onFirst early
      · exact onSecond late
  | many accepts =>
      obtain ⟨front, rest, stands, -, rfl⟩ := Cursor.exists_of_mem_runs (List.mem_reverse.mp member)
      exact List.drop_suffix _ _
  | manyLazy accepts =>
      obtain ⟨front, rest, stands, -, rfl⟩ := Cursor.exists_of_mem_runs member
      exact List.drop_suffix _ _
  | capture group body ih =>
      obtain ⟨inner, reached, rfl⟩ := mem_ways_capture.mp member
      have inside : inner.rest <:+ here.rest := ih reached
      exact inside
  | wordEdge | textStart | textEnd =>
      simp only [ways, List.mem_ite_nil_right, List.mem_singleton] at member
      exact member.2 ▸ List.suffix_rfl
  | notAfter accepts =>
      simp only [ways, List.mem_ite_nil_left, List.mem_singleton] at member
      exact member.2 ▸ List.suffix_rfl
  | notAhead body _ =>
      simp only [ways, List.mem_ite_nil_right, List.mem_singleton] at member
      exact member.2 ▸ List.suffix_rfl

/-- A sequence with a given character only matches where the character stands ahead. Induction on
the patterns in front of it.
-/
theorem mem_rest_of_mem_ways {patterns others : List Pattern}
    (member : stop ∈ (sequence (patterns ++ char c :: others)).ways here)
    : c ∈ here.rest := by
  induction patterns generalizing here with
  | nil =>
      obtain ⟨mid, reached, -⟩ := mem_ways_sequence_cons.mp member
      obtain ⟨found, rest, stands, accepted, -⟩ := mem_ways_one.mp reached
      obtain rfl : found = c := of_decide_eq_true accepted
      simp [stands]
  | cons pattern patterns ih =>
      obtain ⟨mid, reached, onward⟩ := mem_ways_sequence_cons.mp member
      exact (isSuffix_of_mem_ways reached).subset (ih onward)

/-- A sequence with a given character fails where the character does not stand ahead. -/
theorem firstWay_eq_none_of_not_mem (patterns : List Pattern) {others : List Pattern}
    (absent : c ∉ here.rest)
    : (sequence (patterns ++ char c :: others)).firstWay here next = none := by
  rw [firstWay_eq_findSome, List.findSome?_eq_none_iff]
  intro stop member
  exact absurd (mem_rest_of_mem_ways member) absent

-----------------------------------------------------------------------------------------
-- White space
-----------------------------------------------------------------------------------------

/-- Where no white space stands, none is passed. -/
theorem firstWay_spaces_of_solid (stands : here.rest = c :: rest) (solid : Text.isSpace c = false)
    : spaces.firstWay here next = next here := by
  rw [spaces, firstWay_many_cons stands, solid]
  rfl

/-- White space in front of something else is passed, if the rest of the pattern succeeds from
behind it.
-/
theorem firstWay_spaces (stands : here.rest = front ++ rest)
    (blank : ∀ c ∈ front, Text.isSpace c = true)
    (solid : ∀ c ∈ rest.head?, Text.isSpace c = false)
    (found : next (here.pass front) = some stop)
    : spaces.firstWay here next = some stop := by
  refine firstWay_many stands blank ?_ found
  intro more after split some others
  obtain ⟨c, more, rfl⟩ := List.exists_cons_of_ne_nil some
  have stops : Text.isSpace c = false := solid c (by simp [split])
  simp [stops] at others

/-- White space and a character fail in front of a text that is not all white space and does not
have the character.
-/
theorem firstWay_spaces_char_eq_none (c : Char) (stands : here.rest = front ++ rest)
    (solid : ∃ other ∈ front, Text.isSpace other = false) (absent : c ∉ front)
    : (spaces.firstWay here fun mid => (char c).firstWay mid next) = none := by
  refine firstWay_many_eq_none ?_
  intro blanks after split blank
  refine firstWay_char_eq_none ?_
  rw [Cursor.rest_pass split]
  intro first
  obtain ⟨after, rfl⟩ := List.head?_eq_some_iff.mp first
  obtain ⟨other, member, stops⟩ := solid
  rw [stands] at split
  rcases List.append_eq_append_iff.mp split with ⟨more, rfl, -⟩ | ⟨more, rfl, same⟩
  · have blank := blank other (List.mem_append_left _ member)
    simp [stops] at blank
  · cases more with
    | nil =>
        have blank := blank other (by simpa using member)
        simp [stops] at blank
    | cons found more =>
        obtain rfl : c = found := (List.cons.inj same).1
        simp at absent

end Pattern

end SolidityAtlas
