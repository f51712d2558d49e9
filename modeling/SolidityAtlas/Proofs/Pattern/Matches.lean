import SolidityAtlas.Pattern.Scan

/-! What a match says about the text it was found in. A scan of a text finds each match at the
offset where the match starts, given texts stand where they match, and a capture that nothing
overwrites is text at the place where it was made.
-/

namespace SolidityAtlas

namespace Cursor

/-- The cursor at an offset of a text, with nothing captured. -/
def atOffset (text : List Char) (offset : Nat) : Cursor :=
  { offset := offset, before := (text.take offset).getLast?, rest := text.drop offset }

@[simp]
theorem offset_atOffset (text : List Char) (offset : Nat)
    : (atOffset text offset).offset = offset :=
  rfl

@[simp]
theorem groups_atOffset (text : List Char) (offset : Nat) : (atOffset text offset).groups = [] :=
  rfl

/-- Behind a part of a text stands the rest of it. -/
theorem atOffset_append (front rest : List Char)
    : atOffset (front ++ rest) front.length
      = { offset := front.length, before := front.getLast?, rest := rest } := by
  simp [atOffset]

variable {here stop : Cursor} {accepts : Char → Bool}

/-- A run over characters of a class captures nothing. Induction on the text behind the cursor. -/
theorem groups_of_mem_runs (member : stop ∈ here.runs accepts) : stop.groups = here.groups := by
  obtain ⟨offset, before, rest, groups⟩ := here
  rw [runs] at member
  dsimp only at member
  induction rest generalizing offset before with
  | nil =>
      obtain rfl := List.mem_singleton.mp member
      rfl
  | cons c rest ih =>
      rw [runsFrom, List.mem_cons] at member
      rcases member with rfl | onward
      · rfl
      · split at onward
        · exact ih _ _ onward
        · cases onward

end Cursor

namespace Pattern

variable {pattern body first second : Pattern} {patterns : List Pattern} {here stop : Cursor}
  {group : Nat}

/-- A sequence of two patterns stops where the second one stops from where the first one stops. -/
theorem mem_ways_seq
    : stop ∈ (seq first second).ways here ↔ ∃ mid ∈ first.ways here, stop ∈ second.ways mid :=
  List.mem_flatMap

/-- A sequence is its first pattern and then the sequence of the others. -/
theorem mem_ways_sequence_cons
    : stop ∈ (sequence (pattern :: patterns)).ways here
      ↔ ∃ mid ∈ pattern.ways here, stop ∈ (sequence patterns).ways mid := by
  cases patterns with
  | nil => simp [sequence, ways]
  | cons next rest => exact mem_ways_seq

/-- A capture stops where its body stops. -/
theorem mem_ways_capture
    : stop ∈ (capture group body).ways here
      ↔ ∃ inner ∈ body.ways here, here.capture group inner = stop :=
  List.mem_map

/-- A character stops behind one character of its class. -/
theorem mem_ways_one {accepts : Char → Bool}
    : stop ∈ (one accepts).ways here
      ↔ ∃ c rest,
          here.rest = c :: rest
          ∧ accepts c = true
          ∧ stop = { offset := here.offset + 1, before := some c, rest := rest
                     groups := here.groups } := by
  rw [ways]
  split
  · rename_i ended
    simp [ended]
  · rename_i c rest split
    rw [split]
    by_cases accepted : accepts c = true
    · rw [if_pos accepted, List.mem_singleton]
      constructor
      · intro same
        exact ⟨c, rest, rfl, accepted, same⟩
      · rintro ⟨_, _, same, -, rfl⟩
        obtain ⟨rfl, rfl⟩ := List.cons.inj same
        rfl
    · rw [if_neg accepted]
      constructor
      · intro member
        cases member
      · rintro ⟨_, _, same, other, -⟩
        obtain ⟨rfl, rfl⟩ := List.cons.inj same
        exact absurd other accepted

/-- The numbers that a pattern captures under. -/
def captures : Pattern → List Nat
  | .seq first second | .alt first second => first.captures ++ second.captures
  | .capture group body => group :: body.captures
  | .empty | .one _ | .many _ | .manyLazy _ | .wordEdge | .notAfter _ | .notAhead _ | .textStart
  | .textEnd => []

/-- What is captured under other numbers stays, by induction on the pattern. -/
theorem lookup_groups_of_mem_ways (member : stop ∈ pattern.ways here)
    (other : group ∉ pattern.captures)
    : stop.groups.lookup group = here.groups.lookup group := by
  induction pattern generalizing here stop with
  | empty =>
      obtain rfl := List.mem_singleton.mp member
      rfl
  | one accepts =>
      obtain ⟨c, rest, -, -, rfl⟩ := mem_ways_one.mp member
      rfl
  | seq first second onFirst onSecond =>
      obtain ⟨mid, reached, onward⟩ := mem_ways_seq.mp member
      simp only [captures, List.mem_append, not_or] at other
      exact (onSecond onward other.2).trans (onFirst reached other.1)
  | alt first second onFirst onSecond =>
      simp only [captures, List.mem_append, not_or] at other
      rcases List.mem_append.mp member with early | late
      · exact onFirst early other.1
      · exact onSecond late other.2
  | many accepts =>
      rw [Cursor.groups_of_mem_runs (List.mem_reverse.mp member)]
  | manyLazy accepts =>
      rw [Cursor.groups_of_mem_runs member]
  | capture number body ih =>
      obtain ⟨inner, reached, rfl⟩ := mem_ways_capture.mp member
      simp only [captures, List.mem_cons, not_or] at other
      rw [Cursor.capture, List.lookup_cons, beq_false_of_ne other.1]
      exact ih reached other.2
  | wordEdge | textStart | textEnd =>
      simp only [ways, List.mem_ite_nil_right, List.mem_singleton] at member
      rw [member.2]
  | notAfter accepts =>
      simp only [ways, List.mem_ite_nil_left, List.mem_singleton] at member
      rw [member.2]
  | notAhead body _ =>
      simp only [ways, List.mem_ite_nil_right, List.mem_singleton] at member
      rw [member.2]

/-- A given text is what stands at the cursor, and it captures nothing. Induction on the text. -/
theorem rest_of_mem_ways_literal {text : List Char}
    (member : stop ∈ (sequence (text.map char)).ways here)
    : here.rest = text ++ stop.rest ∧ stop.groups = here.groups := by
  induction text generalizing here with
  | nil =>
      obtain rfl := List.mem_singleton.mp member
      exact ⟨rfl, rfl⟩
  | cons c text ih =>
      rw [List.map_cons, mem_ways_sequence_cons] at member
      obtain ⟨mid, reached, onward⟩ := member
      obtain ⟨found, rest, split, accepted, rfl⟩ := mem_ways_one.mp reached
      obtain rfl : found = c := of_decide_eq_true accepted
      obtain ⟨later, same⟩ := ih onward
      exact ⟨by rw [split, List.cons_append, ← later], same⟩

/-- A capture in front of patterns that do not capture under its number is text at the cursor. -/
theorem lookup_of_capture_first
    (member : stop ∈ (sequence (.capture group body :: patterns)).ways here)
    (last : group ∉ (sequence patterns).captures)
    : ∃ length, stop.groups.lookup group = some { rest := here.rest, length := length } := by
  obtain ⟨mid, reached, onward⟩ := mem_ways_sequence_cons.mp member
  obtain ⟨inner, -, rfl⟩ := mem_ways_capture.mp reached
  rw [lookup_groups_of_mem_ways onward last, Cursor.capture, List.lookup_cons, beq_self_eq_true]
  exact ⟨_, rfl⟩

-----------------------------------------------------------------------------------------
-- Scans
-----------------------------------------------------------------------------------------

variable {text : List Char} {found : Match}

/-- The preferred match is one of the ways to match. -/
theorem exists_mem_ways_of_matchAt (matched : pattern.matchAt here = some found)
    : ∃ stop ∈ pattern.ways here,
        found = { start := here.offset, stop := stop.offset, groups := stop.groups } := by
  rw [matchAt, firstWay_eq_findSome] at matched
  obtain ⟨stop, first, rfl⟩ := Option.map_eq_some_iff.mp matched
  obtain ⟨way, member, same⟩ := List.exists_of_findSome?_eq_some first
  obtain rfl := Option.some.inj same
  exact ⟨way, member, rfl⟩

/-- There is a match where there is a way to match. -/
theorem isSome_matchAt_iff : (pattern.matchAt here).isSome = true ↔ ∃ stop, stop ∈ pattern.ways here
    := by
  rw [matchAt, firstWay_eq_findSome, Option.isSome_map, List.findSome?_isSome_iff]
  simp

/-- A match starts at the cursor. -/
theorem start_of_matchAt (matched : pattern.matchAt here = some found)
    : found.start = here.offset := by
  obtain ⟨stop, -, rfl⟩ := exists_mem_ways_of_matchAt matched
  rfl

/-- A match between two parts of a text is a match at the offset where it starts. -/
theorem matchAt_atOffset {front rest : List Char}
    (matched
      : pattern.matchAt { offset := front.length, before := front.getLast?, rest := rest }
        = some found)
    : pattern.matchAt (.atOffset (front ++ rest) found.start) = some found := by
  rwa [start_of_matchAt matched, Cursor.atOffset_append]

/-- A scan from an offset on finds each match where the match starts. Induction on what is left of
the text.
-/
theorem matchAt_of_mem_findAllFrom {front rest : List Char} {free : Nat}
    (member : found ∈ pattern.findAllFrom front.length front.getLast? free rest)
    : pattern.matchAt (.atOffset (front ++ rest) found.start) = some found := by
  induction rest generalizing front free with
  | nil =>
      rw [findAllFrom] at member
      split at member
      · cases member
      · exact matchAt_atOffset (Option.mem_toList.mp member)
  | cons c rest ih =>
      have onward {free : Nat}
          (member : found ∈ pattern.findAllFrom (front.length + 1) (some c) free rest)
          : pattern.matchAt (.atOffset (front ++ c :: rest) found.start) = some found := by
        have moved
            : found ∈ pattern.findAllFrom (front ++ [c]).length (front ++ [c]).getLast? free
                rest := by
          simpa using member
        simpa using ih moved
      rw [findAllFrom] at member
      split at member
      · exact onward member
      · split at member
        · exact onward member
        · rename_i matched
          rcases List.mem_cons.mp member with rfl | later
          · exact matchAt_atOffset matched
          · exact onward later

/-- A scan of a text finds each match at the offset where the match starts. -/
theorem matchAt_of_mem_findAll (member : found ∈ pattern.findAll text)
    : pattern.matchAt (.atOffset text found.start) = some found := by
  have whole : found ∈ pattern.findAllFrom ([] : List Char).length [].getLast? 0 text := member
  simpa using matchAt_of_mem_findAllFrom whole

/-- A scan from an offset on finds matches between this offset and the end of the text, and each of
them starts behind the one before it. Induction on what is left of the text.
-/
theorem ordered_findAllFrom (offset : Nat) (before : Option Char) (free : Nat) (rest : List Char)
    : (∀ found ∈ pattern.findAllFrom offset before free rest,
        offset ≤ found.start ∧ found.start ≤ offset + rest.length)
      ∧ (pattern.findAllFrom offset before free rest).Pairwise
          fun found later => found.start < later.start := by
  induction rest generalizing offset before free with
  | nil =>
      rw [findAllFrom]
      split
      · simp
      · cases matched : pattern.matchAt { offset := offset, before := before, rest := [] } with
        | none => simp
        | some found => simp [start_of_matchAt matched]
  | cons c rest ih =>
      have onward (free : Nat)
          : ∀ found ∈ pattern.findAllFrom (offset + 1) (some c) free rest,
              offset < found.start ∧ found.start ≤ offset + (c :: rest).length := by
        intro found member
        have bounds := (ih (offset + 1) (some c) free).1 found member
        rw [List.length_cons]
        omega
      have skipped (free : Nat)
          : ∀ found ∈ pattern.findAllFrom (offset + 1) (some c) free rest,
              offset ≤ found.start ∧ found.start ≤ offset + (c :: rest).length :=
        fun found member =>
          ⟨Nat.le_of_lt (onward free found member).1, (onward free found member).2⟩
      rw [findAllFrom]
      split
      · exact ⟨skipped free, (ih (offset + 1) (some c) free).2⟩
      · split
        · exact ⟨skipped free, (ih (offset + 1) (some c) free).2⟩
        · rename_i found matched
          have start : found.start = offset := start_of_matchAt matched
          rw [List.forall_mem_cons, List.pairwise_cons, start]
          refine ⟨⟨by omega, skipped found.stop⟩, ?_, (ih (offset + 1) (some c) found.stop).2⟩
          exact fun later member => (onward found.stop later member).1

/-- A scan of a text finds matches inside the text. -/
theorem start_le_of_mem_findAll (member : found ∈ pattern.findAll text)
    : found.start ≤ text.length := by
  simpa using ((ordered_findAllFrom 0 none 0 text).1 found member).2

/-- A scan of a text finds matches from left to right. -/
theorem pairwise_start_findAll (pattern : Pattern) (text : List Char)
    : (pattern.findAll text).Pairwise fun found later => found.start < later.start :=
  (ordered_findAllFrom 0 none 0 text).2

/-- A scan from an offset on finds a match further on if no match in front of it reaches over its
start. Induction on the text up to the match.
-/
theorem mem_findAllFrom_of_clear {front between rest : List Char} {free : Nat}
    (matched
      : pattern.matchAt (.atOffset (front ++ (between ++ rest)) (front.length + between.length))
        = some found)
    (clear
      : ∀ offset earlier,
          offset < front.length + between.length
          → pattern.matchAt (.atOffset (front ++ (between ++ rest)) offset) = some earlier
          → earlier.stop ≤ front.length + between.length)
    (reached : free ≤ front.length + between.length)
    : found ∈ pattern.findAllFrom front.length front.getLast? free (between ++ rest) := by
  induction between generalizing front free with
  | nil =>
      have here : ¬ front.length < free := Nat.not_lt.mpr reached
      have matchedHere
          : pattern.matchAt { offset := front.length, before := front.getLast?, rest := rest }
            = some found := by
        rw [← Cursor.atOffset_append]
        exact matched
      cases rest with
      | nil =>
          rw [List.nil_append, findAllFrom, if_neg here, matchedHere]
          exact List.mem_singleton_self found
      | cons c rest =>
          rw [List.nil_append, findAllFrom, if_neg here, matchedHere]
          exact List.mem_cons_self
  | cons c between ih =>
      have length : (front ++ [c]).length + between.length
          = front.length + (c :: between).length := by
        simp only [List.length_append, List.length_cons, List.length_nil]
        omega
      have whole : (front ++ [c]) ++ (between ++ rest) = front ++ (c :: between ++ rest) := by simp
      have onward {free : Nat} (later : free ≤ front.length + (c :: between).length)
          : found ∈ pattern.findAllFrom (front.length + 1) (some c) free (between ++ rest) := by
        have moved
            : found ∈ pattern.findAllFrom (front ++ [c]).length (front ++ [c]).getLast? free
                (between ++ rest) :=
          ih (by rwa [whole, length]) (by rwa [whole, length]) (by rwa [length])
        simpa using moved
      rw [List.cons_append, findAllFrom]
      split
      · exact onward reached
      · split
        · exact onward reached
        · rename_i earlier earlierMatched
          refine List.mem_cons_of_mem _ (onward ?_)
          refine clear front.length earlier ?_ ?_
          · simp
          · rwa [Cursor.atOffset_append]

/-- A scan of a text finds a match that no match in front of it reaches over. -/
theorem mem_findAll_of_clear {front rest : List Char}
    (matched : pattern.matchAt (.atOffset (front ++ rest) front.length) = some found)
    (clear
      : ∀ offset earlier,
          offset < front.length
          → pattern.matchAt (.atOffset (front ++ rest) offset) = some earlier
          → earlier.stop ≤ front.length)
    : found ∈ pattern.findAll (front ++ rest) := by
  have whole : found ∈ pattern.findAllFrom ([] : List Char).length [].getLast? 0 (front ++ rest) :=
    mem_findAllFrom_of_clear (by simpa using matched) (by simpa using clear) (Nat.zero_le _)
  exact whole

/-- A pattern occurs in what is left of a text if it matches at some place there. Induction on what
is left of the text.
-/
theorem occursFrom_iff (front rest : List Char)
    : pattern.occursFrom front.length front.getLast? rest = true
      ↔ ∃ passed after,
          rest = passed ++ after
          ∧ (pattern.matchAt (.atOffset (front ++ rest) (front ++ passed).length)).isSome = true
    := by
  induction rest generalizing front with
  | nil =>
      rw [occursFrom, ← Cursor.atOffset_append]
      constructor
      · intro matched
        exact ⟨[], [], rfl, by simpa using matched⟩
      · rintro ⟨passed, after, split, matched⟩
        obtain ⟨rfl, rfl⟩ := List.append_eq_nil_iff.mp split.symm
        simpa using matched
  | cons c rest ih =>
      have onward
          : pattern.occursFrom (front.length + 1) (some c) rest = true
            ↔ ∃ passed after,
                rest = passed ++ after
                ∧ (pattern.matchAt
                    (.atOffset (front ++ c :: rest) (front ++ c :: passed).length)).isSome
                  = true := by
        simpa using ih (front ++ [c])
      rw [occursFrom, Bool.or_eq_true, onward, ← Cursor.atOffset_append]
      constructor
      · rintro (matched | ⟨passed, after, rfl, matched⟩)
        · exact ⟨[], c :: rest, rfl, by simpa using matched⟩
        · exact ⟨c :: passed, after, rfl, matched⟩
      · rintro ⟨passed, after, split, matched⟩
        cases passed with
        | nil => exact .inl (by simpa using matched)
        | cons first passed =>
            obtain ⟨rfl, rfl⟩ := List.cons.inj split
            exact .inr ⟨passed, after, rfl, matched⟩

/-- A pattern occurs in a text if there is a way to match behind some front of the text. -/
theorem occursIn_iff
    : pattern.occursIn text = true
      ↔ ∃ front rest,
          text = front ++ rest ∧ ∃ stop, stop ∈ pattern.ways (.atOffset text front.length) := by
  have whole
      : pattern.occursFrom ([] : List Char).length [].getLast? text = true
        ↔ ∃ passed after,
            text = passed ++ after
            ∧ (pattern.matchAt (.atOffset ([] ++ text) ([] ++ passed).length)).isSome = true :=
    occursFrom_iff [] text
  simpa [occursIn, isSome_matchAt_iff] using whole

end Pattern

end SolidityAtlas
