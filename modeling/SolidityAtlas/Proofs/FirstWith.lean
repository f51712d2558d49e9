import Mathlib.Data.List.Basic

/-! The first item of a list with a property, and the searches that find it. -/

namespace SolidityAtlas

variable {α β : Type} {holds : α → Prop} {items rest : List α} {item head : α}

/-- `FirstWith holds items item`: the item has the property, and none of the items before it has. -/
def FirstWith (holds : α → Prop) (items : List α) (item : α) : Prop :=
  ∃ before after,
    items = before ++ item :: after ∧ holds item ∧ ∀ earlier ∈ before, ¬ holds earlier

theorem FirstWith.mem (first : FirstWith holds items item) : item ∈ items := by
  obtain ⟨before, after, rfl, -, -⟩ := first
  simp

theorem FirstWith.has (first : FirstWith holds items item) : holds item := by
  obtain ⟨-, -, -, has, -⟩ := first
  exact has

/-- In an ordered list the other items with the property come behind the first one. -/
theorem FirstWith.eq_or_rel {R : α → α → Prop} {other : α} (first : FirstWith holds items item)
    (ordered : items.Pairwise R) (member : other ∈ items) (has : holds other)
    : other = item ∨ R item other := by
  obtain ⟨before, after, rfl, -, none⟩ := first
  rcases List.mem_append.mp member with earlier | onward
  · exact absurd has (none other earlier)
  · rcases List.mem_cons.mp onward with same | later
    · exact .inl same
    · have behind := (List.pairwise_append.mp ordered).2.1
      exact .inr ((List.pairwise_cons.mp behind).1 other later)

/-- If the head of a list has the property, it is the first item that has. -/
theorem FirstWith.eq_head (first : FirstWith holds (head :: rest) item) (has : holds head)
    : item = head := by
  obtain ⟨before, after, split, -, none⟩ := first
  cases before with
  | nil => exact (List.cons.inj split).1.symm
  | cons earlier before =>
      obtain ⟨rfl, -⟩ := List.cons.inj split
      exact absurd has (none head List.mem_cons_self)

/-- A search for the first item that passes a test for the property finds the first item with it. -/
theorem find?_eq_some_iff_firstWith {test : α → Bool} (decides : ∀ a, test a = true ↔ holds a)
    : items.find? test = some item ↔ FirstWith holds items item := by
  rw [List.find?_eq_some_iff_append, decides]
  constructor
  · rintro ⟨has, before, after, split, none⟩
    refine ⟨before, after, split, has, fun earlier member held => ?_⟩
    simpa [(decides earlier).mpr held] using none earlier member
  · rintro ⟨before, after, split, has, none⟩
    refine ⟨has, before, after, split, fun earlier member => ?_⟩
    simpa [← decides] using none earlier member

/-- A search for the first result, where just the items with the property have one, takes the result
of the first of these items.
-/
theorem FirstWith.of_findSome? {result : α → Option β} {found : β}
    (decides : ∀ a, (result a).isSome = true ↔ holds a)
    (search : items.findSome? result = some found)
    : ∃ item, FirstWith holds items item ∧ result item = some found := by
  obtain ⟨before, item, after, split, here, none⟩ := List.findSome?_eq_some_iff.mp search
  refine ⟨item, ⟨before, after, split, ?_, fun earlier member held => ?_⟩, here⟩
  · rw [← decides, here]
    rfl
  · rw [← decides, none earlier member] at held
    cases held

end SolidityAtlas
