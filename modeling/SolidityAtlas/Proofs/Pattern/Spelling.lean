import SolidityAtlas.Vocabulary.Patterns
import SolidityAtlas.Proofs.Pattern.Preferred
import SolidityAtlas.Proofs.Text.Words

/-! The texts that patterns spell. A pattern that neither looks around nor captures matches the same
texts wherever they stand: its ways from a cursor pass the texts it spells. So it occurs in a text
exactly when a part of the text is spelled by it.
-/

namespace SolidityAtlas

namespace Cursor

variable {here : Cursor} {accepts : Char → Bool} {front rest : List Char}

/-- Characters of a class at a cursor can be passed. Induction on the text that is passed. -/
theorem pass_mem_runs (stands : here.rest = front ++ rest) (all : ∀ c ∈ front, accepts c = true)
    : here.pass front ∈ here.runs accepts := by
  induction front generalizing here with
  | nil =>
      rw [pass_nil]
      cases ended : here.rest with
      | nil => simp [runs_nil ended]
      | cons c text => simp [runs_cons ended]
  | cons c front ih =>
      rw [List.forall_mem_cons] at all
      have onward : (here.pass [c]).pass front ∈ (here.pass [c]).runs accepts :=
        ih (rest_pass (by simpa using stands)) all.2
      rw [← pass_append, List.singleton_append] at onward
      rw [runs_cons stands, if_pos all.1]
      exact List.mem_cons_of_mem here onward

end Cursor

namespace Pattern

open Text Vocabulary

variable {pattern : Pattern} {patterns : List Pattern} {here stop : Cursor} {text : List Char}
  {accepts : Char → Bool} {c : Char}

-----------------------------------------------------------------------------------------
-- Plain patterns
-----------------------------------------------------------------------------------------

/-- A pattern that neither looks around nor captures. -/
def IsPlain : Pattern → Prop
  | .empty | .one _ | .many _ | .manyLazy _ => True
  | .seq first second | .alt first second => first.IsPlain ∧ second.IsPlain
  | .capture _ _ | .wordEdge | .notAfter _ | .notAhead _ | .textStart | .textEnd => False

/-- A text that a plain pattern matches; other patterns spell nothing. -/
def Spells : Pattern → List Char → Prop
  | .empty, text => text = []
  | .one accepts, text => ∃ c, text = [c] ∧ accepts c = true
  | .seq first second, text =>
      ∃ front back, text = front ++ back ∧ first.Spells front ∧ second.Spells back
  | .alt first second, text => first.Spells text ∨ second.Spells text
  | .many accepts, text | .manyLazy accepts, text => ∀ c ∈ text, accepts c = true
  | .capture _ _, _ | .wordEdge, _ | .notAfter _, _ | .notAhead _, _ => False
  | .textStart, _ | .textEnd, _ => False

/-- A plain pattern passes the texts that it spells. Induction on the pattern. -/
theorem mem_ways_iff_spells (plain : pattern.IsPlain)
    : stop ∈ pattern.ways here
      ↔ ∃ passed rest,
          here.rest = passed ++ rest ∧ pattern.Spells passed ∧ stop = here.pass passed := by
  induction pattern generalizing here stop with
  | empty =>
      simp only [ways, List.mem_singleton, Spells]
      constructor
      · rintro rfl
        exact ⟨[], stop.rest, rfl, rfl, Cursor.pass_nil.symm⟩
      · rintro ⟨passed, rest, -, rfl, rfl⟩
        exact Cursor.pass_nil
  | one accepts =>
      rw [mem_ways_one]
      constructor
      · rintro ⟨c, rest, stands, accepted, rfl⟩
        exact ⟨[c], rest, stands, ⟨c, rfl, accepted⟩, (Cursor.pass_singleton stands).symm⟩
      · rintro ⟨passed, rest, stands, ⟨c, rfl, accepted⟩, rfl⟩
        exact ⟨c, rest, stands, accepted, Cursor.pass_singleton stands⟩
  | seq first second onFirst onSecond =>
      rw [mem_ways_seq]
      constructor
      · rintro ⟨mid, reached, onward⟩
        obtain ⟨front, rest, stands, spelled, rfl⟩ := (onFirst plain.1).mp reached
        obtain ⟨back, after, follows, spelledToo, rfl⟩ := (onSecond plain.2).mp onward
        rw [Cursor.rest_pass stands] at follows
        refine ⟨front ++ back, after, ?_, ⟨front, back, rfl, spelled, spelledToo⟩, ?_⟩
        · rw [stands, follows, List.append_assoc]
        · rw [Cursor.pass_append]
      · rintro ⟨passed, rest, stands, ⟨front, back, rfl, spelled, spelledToo⟩, rfl⟩
        rw [List.append_assoc] at stands
        refine ⟨here.pass front, (onFirst plain.1).mpr ⟨front, _, stands, spelled, rfl⟩, ?_⟩
        exact (onSecond plain.2).mpr
          ⟨back, rest, Cursor.rest_pass stands, spelledToo, Cursor.pass_append⟩
  | alt first second onFirst onSecond =>
      rw [ways, List.mem_append, onFirst plain.1, onSecond plain.2]
      constructor
      · rintro (⟨passed, rest, stands, spelled, same⟩ | ⟨passed, rest, stands, spelled, same⟩)
        · exact ⟨passed, rest, stands, .inl spelled, same⟩
        · exact ⟨passed, rest, stands, .inr spelled, same⟩
      · rintro ⟨passed, rest, stands, spelled | spelled, same⟩
        · exact .inl ⟨passed, rest, stands, spelled, same⟩
        · exact .inr ⟨passed, rest, stands, spelled, same⟩
  | many accepts | manyLazy accepts =>
      have run
          : stop ∈ here.runs accepts
            ↔ ∃ passed rest,
                here.rest = passed ++ rest ∧ (∀ c ∈ passed, accepts c = true)
                ∧ stop = here.pass passed := by
        constructor
        · exact Cursor.exists_of_mem_runs
        · rintro ⟨passed, rest, stands, all, rfl⟩
          exact Cursor.pass_mem_runs stands all
      simpa [ways, Spells] using run
  | capture | wordEdge | notAfter | notAhead | textStart | textEnd => exact plain.elim

/-- A plain pattern occurs in a text that has a part which it spells. -/
theorem occursIn_iff_spells (plain : pattern.IsPlain)
    : pattern.occursIn text = true ↔ ∃ piece, piece <:+: text ∧ pattern.Spells piece := by
  rw [occursIn_iff]
  simp only [mem_ways_iff_spells plain]
  constructor
  · rintro ⟨front, rest, rfl, stop, passed, after, stands, spelled, -⟩
    rw [Cursor.atOffset_append] at stands
    obtain rfl : rest = passed ++ after := stands
    exact ⟨passed, ⟨front, after, List.append_assoc front passed after⟩, spelled⟩
  · rintro ⟨piece, ⟨front, after, rfl⟩, spelled⟩
    rw [List.append_assoc]
    refine ⟨front, piece ++ after, rfl, _, piece, after, ?_, spelled, rfl⟩
    rw [Cursor.atOffset_append]

-----------------------------------------------------------------------------------------
-- What the parts of patterns spell
-----------------------------------------------------------------------------------------

@[simp]
theorem plain_sequence_nil : (sequence []).IsPlain :=
  trivial

@[simp]
theorem plain_sequence_cons
    : (sequence (pattern :: patterns)).IsPlain ↔ pattern.IsPlain ∧ (sequence patterns).IsPlain := by
  cases patterns with
  | nil => simp [sequence, IsPlain]
  | cons next rest => rfl

@[simp]
theorem plain_one : (one accepts).IsPlain :=
  trivial

@[simp]
theorem plain_many : (many accepts).IsPlain :=
  trivial

@[simp]
theorem plain_oneOrMore : (oneOrMore accepts).IsPlain :=
  ⟨trivial, trivial⟩

@[simp]
theorem plain_char : (char c).IsPlain :=
  trivial

@[simp]
theorem plain_spaces : spaces.IsPlain :=
  trivial

/-- A given text is a plain pattern, by induction on the text. -/
@[simp]
theorem plain_literal (written : String) : (literal written).IsPlain := by
  rw [literal]
  induction written.toList with
  | nil => exact plain_sequence_nil
  | cons c text ih => exact plain_sequence_cons.mpr ⟨plain_char, ih⟩

@[simp]
theorem spells_sequence_nil : (sequence []).Spells text ↔ text = [] :=
  Iff.rfl

@[simp]
theorem spells_sequence_cons
    : (sequence (pattern :: patterns)).Spells text
      ↔ ∃ front back, text = front ++ back ∧ pattern.Spells front ∧ (sequence patterns).Spells back
    := by
  cases patterns with
  | nil => simp [sequence, Spells]
  | cons next rest => rfl

@[simp]
theorem spells_char : (char c).Spells text ↔ text = [c] := by
  simp [char, Spells]

@[simp]
theorem spells_many : (many accepts).Spells text ↔ ∀ c ∈ text, accepts c = true :=
  Iff.rfl

@[simp]
theorem spells_spaces : spaces.Spells text ↔ ∀ c ∈ text, isSpace c = true :=
  Iff.rfl

/-- A given text spells itself, by induction on the text. -/
@[simp]
theorem spells_literal {written : String} : (literal written).Spells text ↔ text = written.toList
    := by
  rw [literal]
  induction written.toList generalizing text with
  | nil => exact spells_sequence_nil
  | cons c given ih => simp [ih]

/-- A repetition spells texts of the class that have a character at least. -/
@[simp]
theorem spells_oneOrMore
    : (oneOrMore accepts).Spells text ↔ text ≠ [] ∧ ∀ c ∈ text, accepts c = true := by
  simp only [oneOrMore, Spells]
  constructor
  · rintro ⟨front, back, rfl, ⟨c, rfl, accepted⟩, all⟩
    exact ⟨by simp, List.forall_mem_cons.mpr ⟨accepted, all⟩⟩
  · rintro ⟨given, all⟩
    obtain ⟨c, back, rfl⟩ := List.exists_cons_of_ne_nil given
    rw [List.forall_mem_cons] at all
    exact ⟨[c], back, rfl, ⟨c, rfl, all.1⟩, all.2⟩

-----------------------------------------------------------------------------------------
-- Names
-----------------------------------------------------------------------------------------

/-- A class of characters that names can start with. -/
def StartsNames (starts : Char → Bool) : Prop :=
  ∀ c, starts c = true → isIdentifierPart c = true

/-- A name that starts with a character of a class, not bounded on either side. -/
def nameStarting (starts : Char → Bool) : Pattern :=
  sequence [.one starts, .many isIdentifierPart]

/-- Names can start with any letter or with an underscore. -/
theorem startsNames_isIdentifierStart : StartsNames isIdentifierStart := by
  intro c start
  rcases Bool.or_eq_true_iff.mp start with letter | underscore
  · exact Bool.or_eq_true_iff.mpr (.inl (Bool.or_eq_true_iff.mpr (.inl letter)))
  · exact Bool.or_eq_true_iff.mpr (.inr underscore)

/-- Names can start with capitals. -/
theorem startsNames_isUpper : StartsNames Char.isUpper := by
  intro c capital
  have letter : c.isAlpha = true := Bool.or_eq_true_iff.mpr (.inl capital)
  exact startsNames_isIdentifierStart c (Bool.or_eq_true_iff.mpr (.inl letter))

/-- Names can start in lower case or with an underscore. -/
theorem startsNames_isLowerStart : StartsNames isLowerStart := by
  intro c lower
  rcases Bool.or_eq_true_iff.mp lower with small | underscore
  · have letter : c.isAlpha = true := Bool.or_eq_true_iff.mpr (.inr small)
    exact startsNames_isIdentifierStart c (Bool.or_eq_true_iff.mpr (.inl letter))
  · exact startsNames_isIdentifierStart c (Bool.or_eq_true_iff.mpr (.inr underscore))

@[simp]
theorem plain_nameStarting {starts : Char → Bool} : (nameStarting starts).IsPlain :=
  ⟨trivial, trivial⟩

/-- A pattern of names spells names. -/
theorem spells_nameStarting {starts : Char → Bool} (letters : StartsNames starts)
    : (nameStarting starts).Spells text ↔ IsName starts text := by
  simp only [nameStarting, sequence, Spells]
  constructor
  · rintro ⟨front, back, rfl, ⟨c, rfl, start⟩, plain⟩
    exact ⟨by simpa using start, List.forall_mem_cons.mpr ⟨letters c start, plain⟩⟩
  · intro name
    obtain ⟨c, back, rfl⟩ := List.exists_cons_of_ne_nil name.some
    exact ⟨[c], back, rfl, ⟨c, rfl, by simpa using name.first⟩,
      (List.forall_mem_cons.mp name.plain).2⟩

@[simp]
theorem plain_lowerName : lowerName.IsPlain :=
  plain_nameStarting

@[simp]
theorem spells_lowerName : lowerName.Spells text ↔ IsName isLowerStart text :=
  spells_nameStarting startsNames_isLowerStart

end Pattern

end SolidityAtlas
