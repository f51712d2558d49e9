import SolidityAtlas.Source.Location
import Mathlib.Data.List.Induction
import Mathlib.Data.Prod.Lex

/-! The tightest of spans around a position. Searching a list keeps the first of the tightest spans
that hold the position; where spans are disjoint or nested, the tightest ones are all the same span.
-/

namespace SolidityAtlas

namespace Location

variable {span other third : Location} {line column : Int}

/-- A span that lies within another one: it holds no further position. -/
def Inside (span other : Location) : Prop :=
  ∀ line column, span.contains line column = true → other.contains line column = true

/-- Two spans without a position in common. -/
def Disjoint (span other : Location) : Prop :=
  ∀ line column, span.contains line column = true → other.contains line column = false

/-- Spans that are disjoint, or one inside the other. -/
def Nested (span other : Location) : Prop :=
  span.Disjoint other ∨ span.Inside other ∨ other.Inside span

/-- The positions of a span are those from its first to its last, line by line. -/
theorem contains_iff
    : span.contains line column = true
      ↔ (span.first.line < line ∨ span.first.line = line ∧ span.first.column ≤ column)
        ∧ (line < span.last.line ∨ line = span.last.line ∧ column ≤ span.last.column) := by
  simp only [contains, Bool.and_eq_true, Bool.not_eq_true', Bool.or_eq_false_iff,
    Bool.and_eq_false_iff, decide_eq_false_iff_not, beq_eq_false_iff_ne]
  omega

/-- A span is tighter by fewer lines, or by as many lines and fewer columns. -/
theorem tighter_iff
    : span.tighter other = true
      ↔ span.last.line - span.first.line < other.last.line - other.first.line
        ∨ span.last.line - span.first.line = other.last.line - other.first.line
          ∧ span.last.column - span.first.column < other.last.column - other.first.column := by
  rw [tighter, extentLess, Bool.or_eq_true, Bool.and_eq_true, decide_eq_true_iff,
    decide_eq_true_iff, beq_iff_eq]
  rfl

/-- A span is tighter when its extent comes first in lexicographic order. -/
theorem tighter_iff_extent_lt
    : span.tighter other = true ↔ toLex span.extent < toLex other.extent := by
  rw [tighter_iff, Prod.Lex.toLex_lt_toLex]
  rfl

/-- No span is tighter than itself. -/
theorem not_tighter_self : span.tighter span = false := by
  rw [← Bool.not_eq_true, tighter_iff]
  omega

/-- Of two spans at most one is tighter than the other. -/
theorem not_tighter_of_tighter (first : span.tighter other = true)
    : other.tighter span = false := by
  rw [tighter_iff] at first
  rw [← Bool.not_eq_true, tighter_iff]
  omega

/-- What is tighter than a span is tighter than every span that is not tighter than that one. -/
theorem tighter_of_not_tighter (first : span.tighter other = true)
    (second : third.tighter other = false)
    : span.tighter third = true := by
  rw [← Bool.not_eq_true, tighter_iff] at second
  rw [tighter_iff] at first ⊢
  omega

/-- A span that holds a position holds its own first and last one. -/
theorem contains_ends (holds : span.contains line column = true)
    : span.contains span.first.line span.first.column = true
      ∧ span.contains span.last.line span.last.column = true := by
  rw [contains_iff] at holds
  rw [contains_iff, contains_iff]
  omega

/-- A span around a position that is inside another one and not tighter is the same: the outer one
holds the ends of the inner one, and where both have as many lines these are in the same lines.
-/
theorem eq_of_inside (inside : span.Inside other) (holds : span.contains line column = true)
    (tight : span.tighter other = false)
    : span = other := by
  obtain ⟨holdsFirst, holdsLast⟩ := contains_ends holds
  have first := inside _ _ holdsFirst
  have last := inside _ _ holdsLast
  rw [← Bool.not_eq_true, tighter_iff] at tight
  rw [contains_iff] at first last holds
  obtain ⟨⟨firstLine, firstColumn⟩, ⟨lastLine, lastColumn⟩⟩ := span
  obtain ⟨⟨otherLine, otherColumn⟩, ⟨endLine, endColumn⟩⟩ := other
  simp only [Location.mk.injEq, Position.mk.injEq] at tight first last ⊢
  omega

/-- Equally tight spans around one position are the same where they are disjoint or nested. -/
theorem eq_of_nested (nested : span.Nested other) (holds : span.contains line column = true)
    (otherHolds : other.contains line column = true) (loose : other.tighter span = false)
    (tight : span.tighter other = false)
    : span = other := by
  rcases nested with apart | inside | inside
  · rw [apart line column holds] at otherHolds
    cases otherHolds
  · exact eq_of_inside inside holds tight
  · exact (eq_of_inside inside otherHolds loose).symm

end Location

-----------------------------------------------------------------------------------------
-- Search for the tightest item
-----------------------------------------------------------------------------------------

section Search

variable {α : Type} (span : α → Location) (line column : Int)

/-- The tighter of the best item so far and another one, if its span holds the position; of equally
tight items the earlier one stays.
-/
def tightestBy (best : Option α) (item : α) : Option α :=
  if (span item).contains line column then
    match best with
    | none => some item
    | some other => if (span item).tighter (span other) then some item else best
  else best

/-- The first of the tightest items around a position: it holds the position, no item that does is
tighter, and those before it are looser.
-/
structure IsTightest (items : List α) (best : α) : Prop where
  member : best ∈ items
  holds : (span best).contains line column = true
  least
    : ∀ item ∈ items,
        (span item).contains line column = true → (span item).tighter (span best) = false
  first
    : ∃ before after,
        items = before ++ best :: after
        ∧ ∀ item ∈ before,
            (span item).contains line column = true → (span best).tighter (span item) = true

variable {span line column} {items : List α} {best item : α}

/-- An item that does not beat the best one leaves it the best. -/
theorem IsTightest.append_skipped (tightest : IsTightest span line column items best)
    (skipped
      : (span item).contains line column = true → (span item).tighter (span best) = false)
    : IsTightest span line column (items ++ [item]) best := by
  obtain ⟨before, after, split, looser⟩ := tightest.first
  refine ⟨List.mem_append_left _ tightest.member, tightest.holds, ?_, before, after ++ [item], ?_,
    looser⟩
  · intro other member
    rcases List.mem_append.mp member with old | new
    · exact tightest.least other old
    · exact List.mem_singleton.mp new ▸ skipped
  · rw [split, List.append_assoc, List.cons_append]

/-- An item that holds the position and beats all before it that do is the best one. -/
theorem IsTightest.append_beating (holds : (span item).contains line column = true)
    (beats
      : ∀ other ∈ items,
          (span other).contains line column = true → (span item).tighter (span other) = true)
    : IsTightest span line column (items ++ [item]) item := by
  refine ⟨by simp, holds, ?_, items, [], rfl, beats⟩
  intro other member held
  rcases List.mem_append.mp member with old | new
  · exact Location.not_tighter_of_tighter (beats other old held)
  · obtain rfl := List.mem_singleton.mp new
    exact Location.not_tighter_self

/-- The search finds nothing if no item holds the position, and else the first of the tightest ones
that do. Induction on the items from the end, as the last one is looked at last.
-/
theorem foldl_tightestBy (span : α → Location) (line column : Int) (items : List α)
    : match items.foldl (tightestBy span line column) none with
      | none => ∀ item ∈ items, (span item).contains line column = false
      | some best => IsTightest span line column items best := by
  induction items using List.reverseRecOn with
  | nil => exact fun _ member => absurd member List.not_mem_nil
  | append_singleton items item ih =>
      rw [List.foldl_append, List.foldl_cons, List.foldl_nil]
      cases found : items.foldl (tightestBy span line column) none with
      | none =>
          rw [found] at ih
          cases holds : (span item).contains line column with
          | false =>
              rw [tightestBy, if_neg (by simp [holds])]
              intro other member
              rcases List.mem_append.mp member with old | new
              · exact ih other old
              · exact List.mem_singleton.mp new ▸ holds
          | true =>
              rw [tightestBy, if_pos holds]
              refine IsTightest.append_beating holds fun other member held => ?_
              rw [ih other member] at held
              cases held
      | some best =>
          rw [found] at ih
          cases holds : (span item).contains line column with
          | false =>
              rw [tightestBy, if_neg (by simp [holds])]
              exact ih.append_skipped (by simp [holds])
          | true =>
              cases tighter : (span item).tighter (span best) with
              | false =>
                  rw [tightestBy, if_pos holds, if_neg (by simp [tighter])]
                  exact ih.append_skipped fun _ => tighter
              | true =>
                  rw [tightestBy, if_pos holds, if_pos tighter]
                  exact .append_beating holds fun other member held =>
                    Location.tighter_of_not_tighter tighter (ih.least other member held)

/-- The first of the tightest items is the first item with its span. -/
theorem IsTightest.find?_eq (tightest : IsTightest span line column items best)
    : items.find? (fun item => span item = span best) = some best := by
  obtain ⟨before, after, split, looser⟩ := tightest.first
  rw [split, List.find?_append, List.find?_cons_of_pos (by simp)]
  have noneBefore : before.find? (fun item => span item = span best) = none := by
    refine List.find?_eq_none.mpr fun item member same => ?_
    have same : span item = span best := of_decide_eq_true same
    have closer := looser item member (same ▸ tightest.holds)
    rw [same, Location.not_tighter_self] at closer
    cases closer
  rw [noneBefore, Option.none_or]

/-- Two lists of the same spans, nested or apart, have the same tightest spans: the best of one list
is as tight as an item of the other list, and the other way round.
-/
theorem IsTightest.span_eq {β : Type} {image : β → Location} {others : List β} {other : β}
    (sameSpans : ∀ place, (∃ a ∈ items, span a = place) ↔ ∃ b ∈ others, image b = place)
    (nested : ∀ a ∈ items, ∀ b ∈ items, (span a).Nested (span b))
    (tightest : IsTightest span line column items best)
    (otherTightest : IsTightest image line column others other)
    : span best = image other := by
  obtain ⟨twin, twinMember, twinSpan⟩ := (sameSpans _).mp ⟨best, tightest.member, rfl⟩
  obtain ⟨partner, partnerMember, partnerSpan⟩ :=
    (sameSpans _).mpr ⟨other, otherTightest.member, rfl⟩
  have loose : (image other).tighter (span best) = false :=
    partnerSpan ▸ tightest.least partner partnerMember (partnerSpan ▸ otherTightest.holds)
  have tight : (span best).tighter (image other) = false :=
    twinSpan ▸ otherTightest.least twin twinMember (twinSpan ▸ tightest.holds)
  have near : (span best).Nested (image other) :=
    partnerSpan ▸ nested best tightest.member partner partnerMember
  exact Location.eq_of_nested near tightest.holds otherTightest.holds loose tight

/-- The search of a list for the tightest item gives the first item with the span that the search of
another list ends with, where both lists have the same spans, nested or apart.
-/
theorem find?_foldl_tightestBy {β : Type} {image : β → Location} {others : List β}
    (sameSpans : ∀ place, (∃ a ∈ items, span a = place) ↔ ∃ b ∈ others, image b = place)
    (nested : ∀ a ∈ items, ∀ b ∈ items, (span a).Nested (span b))
    : ((items.foldl (tightestBy span line column) none).bind fun best =>
        others.find? fun other => image other = span best)
      = others.foldl (tightestBy image line column) none := by
  have search := foldl_tightestBy span line column items
  have otherSearch := foldl_tightestBy image line column others
  cases found : items.foldl (tightestBy span line column) none with
  | none =>
      rw [found] at search
      cases otherFound : others.foldl (tightestBy image line column) none with
      | none => rfl
      | some other =>
          rw [otherFound] at otherSearch
          obtain ⟨twin, member, same⟩ := (sameSpans _).mpr ⟨other, otherSearch.member, rfl⟩
          have holds := otherSearch.holds
          rw [← same, search twin member] at holds
          cases holds
  | some best =>
      rw [found] at search
      cases otherFound : others.foldl (tightestBy image line column) none with
      | none =>
          rw [otherFound] at otherSearch
          obtain ⟨twin, member, same⟩ := (sameSpans _).mp ⟨best, search.member, rfl⟩
          have holds := search.holds
          rw [← same, otherSearch twin member] at holds
          cases holds
      | some other =>
          rw [otherFound] at otherSearch
          rw [Option.bind_some, search.span_eq sameSpans nested otherSearch]
          exact otherSearch.find?_eq

end Search

end SolidityAtlas
