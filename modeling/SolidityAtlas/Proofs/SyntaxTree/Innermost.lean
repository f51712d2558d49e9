import SolidityAtlas.Proofs.SyntaxTree.Descendants
import SolidityAtlas.Proofs.SyntaxTree.Spans

/-! The innermost function around a position, said without the walk and without the search. Spans
are compared by their lines first and by their columns then, and columns may count backwards; still
a span inside another one around the same position is the tighter of the two.
-/

namespace SolidityAtlas

variable {tree node other : Json} {span place : Location} {line column : Int}

-----------------------------------------------------------------------------------------
-- Functions around a position
-----------------------------------------------------------------------------------------

/-- A function node within a tree whose span holds a position. -/
structure FunctionAround (tree : Json) (line column : Int) (node : Json) (span : Location)
    : Prop where
  within : Within tree node
  function : kindOf node = some functionKind
  carries : CarriesSpan node span
  holds : span.contains line column = true

/-- The innermost function around a position: no function around it has another span inside the one
of this function or a smaller one, and those that come earlier in the tree have larger ones.
-/
structure IsInnermost (tree : Json) (line column : Int) (node : Json) (span : Location)
    : Prop where
  around : FunctionAround tree line column node span
  innermost
    : ∀ other place,
        FunctionAround tree line column other place → place.Inside span → place = span
  smallest
    : ∀ other place,
        FunctionAround tree line column other place
        → ¬ toLex place.extent < toLex span.extent
  first
    : ∃ before after,
        nodesOf tree = before ++ node :: after
        ∧ ∀ other ∈ before, ∀ place,
            FunctionAround tree line column other place
            → toLex span.extent < toLex place.extent

/-- Trees whose function nodes have either no span or one in integers. -/
def SpansInIntegers (tree : Json) : Prop :=
  ∀ node,
    Within tree node
    → kindOf node = some functionKind
    → (∀ fields, node.field "loc" ≠ .obj fields) ∨ ∃ span, CarriesSpan node span

/-- What is no object has no ends. -/
theorem endOf?_eq_none {value : Json} (noObject : ∀ fields, value ≠ .obj fields) (name : String)
    : endOf? value name = none := by
  cases value with
  | obj fields => exact absurd rfl (noObject fields)
  | null | bool _ | int _ | double _ | str _ | arr _ => rfl

/-- `ReadsSpans tree spanOf`: the span of a function node within the tree is read as `spanOf` gives
it, and that is the one in integers, if it carries one.
-/
structure ReadsSpans (tree : Json) (spanOf : Json → Option Location) : Prop where
  read
    : ∀ node,
        Within tree node
        → kindOf node = some functionKind
        → locationOf node = .ok (spanOf node)
  carries
    : ∀ node,
        Within tree node
        → kindOf node = some functionKind
        → ∀ span, spanOf node = some span ↔ CarriesSpan node span

/-- Spans in integers can be read, and no span where there is none. -/
theorem SpansInIntegers.reads (spans : SpansInIntegers tree)
    : ∃ spanOf, ReadsSpans tree spanOf := by
  have reads (node : Json) (within : Within tree node)
      (function : kindOf node = some functionKind)
      : ∃ found,
          locationOf node = .ok found ∧ ∀ span, found = some span ↔ CarriesSpan node span := by
    rcases spans node within function with noObject | ⟨own, carried⟩
    · have noEnd := endOf?_eq_none noObject "start"
      refine ⟨none, by rw [locationOf, noEnd], fun span => iff_of_false nofun fun carried => ?_⟩
      have first := carried.first
      rw [noEnd] at first
      cases first
    · refine ⟨some own, carried.locationOf, fun span => ?_⟩
      constructor
      · rintro ⟨⟩
        exact carried
      · intro other
        rw [carried.unique other]
  choose! spanOf read carries using reads
  exact ⟨spanOf, read, carries⟩

-----------------------------------------------------------------------------------------
-- The search
-----------------------------------------------------------------------------------------

/-- If an item stands somewhere among the results of a list, what it results from stands somewhere
in the list, and what is in front of that results in nothing but the items in front.
-/
theorem exists_split_of_filterMap {α β : Type} {f : α → Option β} {items : List α}
    {before after : List β} {image : β} (split : items.filterMap f = before ++ image :: after)
    : ∃ front item back,
        items = front ++ item :: back
        ∧ f item = some image
        ∧ ∀ earlier ∈ front, ∀ result, f earlier = some result → result ∈ before := by
  obtain ⟨early, late, rfl, ahead, behind⟩ := List.filterMap_eq_append_iff.mp split
  obtain ⟨skipped, item, back, rfl, none, here, -⟩ := List.filterMap_eq_cons_iff.mp behind
  refine ⟨early ++ skipped, item, back, (List.append_assoc ..).symm, here, ?_⟩
  intro earlier member result gives
  rcases List.mem_append.mp member with old | new
  · exact ahead ▸ List.mem_filterMap.mpr ⟨earlier, old, gives⟩
  · rw [none earlier new] at gives
    cases gives

section Search

variable {spanOf : Json → Option Location}

/-- The functions of the tree are listed with the spans they carry. -/
theorem ReadsSpans.mem_located_iff (reads : ReadsSpans tree spanOf)
    : (node, span) ∈ located spanOf (allOfKind tree functionKind)
      ↔ (Within tree node ∧ kindOf node = some functionKind) ∧ CarriesSpan node span := by
  rw [SolidityAtlas.mem_located_iff, mem_allOfKind_iff]
  exact and_congr_right fun ⟨within, function⟩ => reads.carries node within function span

/-- A function is around a position when it is listed with a span that holds the position. -/
theorem ReadsSpans.functionAround_iff (reads : ReadsSpans tree spanOf)
    : FunctionAround tree line column node span
      ↔ (node, span) ∈ located spanOf (allOfKind tree functionKind)
        ∧ span.contains line column = true := by
  rw [reads.mem_located_iff]
  constructor
  · rintro ⟨within, function, carried, holds⟩
    exact ⟨⟨⟨within, function⟩, carried⟩, holds⟩
  · rintro ⟨⟨⟨within, function⟩, carried⟩, holds⟩
    exact ⟨within, function, carried, holds⟩

/-- The search for the innermost function is the search for the tightest function of the tree. -/
theorem ReadsSpans.innermostFunction_eq (reads : ReadsSpans tree spanOf)
    : innermostFunction tree line column
      = .ok ((located spanOf (allOfKind tree functionKind)).foldl
          (tightestBy Prod.snd line column) none) := by
  refine foldlM_enclosingStep _ none fun node member => ?_
  obtain ⟨within, function⟩ := mem_allOfKind_iff.mp member
  exact reads.read node within function

/-- What comes before a function in the list of functions with their spans comes before it in the
tree.
-/
theorem exists_split_of_located {before after : List (Json × Location)}
    (split : located spanOf (allOfKind tree functionKind) = before ++ (node, span) :: after)
    : ∃ front back,
        nodesOf tree = front ++ node :: back
        ∧ ∀ other ∈ front, ∀ place,
            (other, place) ∈ located spanOf (allOfKind tree functionKind)
            → (other, place) ∈ before := by
  rw [allOfKind_eq_filter, located, List.filterMap_filter] at split
  obtain ⟨front, item, back, whole, here, earlier⟩ := exists_split_of_filterMap split
  obtain ⟨-, here⟩ := Option.ite_none_right_eq_some.mp here
  obtain ⟨_, -, same⟩ := Option.map_eq_some_iff.mp here
  obtain rfl := (Prod.mk.inj same).1
  refine ⟨front, back, whole, fun other member place listed => earlier other member _ ?_⟩
  obtain ⟨function, own⟩ := mem_located_iff.mp listed
  rw [allOfKind_eq_filter] at function
  rw [if_pos (List.mem_filter.mp function).2, own]
  rfl

/-- The first of the tightest functions around a position is the innermost one: a span inside its
own cannot be looser, so it is the same.
-/
theorem ReadsSpans.isInnermost (reads : ReadsSpans tree spanOf)
    (tightest
      : IsTightest Prod.snd line column (located spanOf (allOfKind tree functionKind)) (node, span))
    : IsInnermost tree line column node span := by
  have loose {other : Json} {place : Location}
      (around : FunctionAround tree line column other place)
      : place.tighter span = false :=
    tightest.least (other, place) (reads.functionAround_iff.mp around).1 around.holds
  refine ⟨reads.functionAround_iff.mpr ⟨tightest.member, tightest.holds⟩, ?_, ?_, ?_⟩
  -- a span of several lines may end in an earlier column, yet no inner span has the larger extent
  · intro other place around inside
    exact Location.eq_of_inside inside around.holds (loose around)
  · intro other place around
    rw [← Location.tighter_iff_extent_lt, loose around]
    exact Bool.false_ne_true
  · obtain ⟨before, after, split, looser⟩ := tightest.first
    obtain ⟨front, back, whole, earlier⟩ := exists_split_of_located split
    refine ⟨front, back, whole, fun other member place around => ?_⟩
    obtain ⟨listed, holds⟩ := reads.functionAround_iff.mp around
    exact Location.tighter_iff_extent_lt.mp (looser _ (earlier other member place listed) holds)

/-- In a tree whose function nodes have either no span or one in integers, the search for the
innermost function comes to an end at every position. It finds nothing just where no function is
around the position, and what it finds is the innermost function around it.
-/
theorem innermostFunction_isInnermost (spans : SpansInIntegers tree) (line column : Int)
    : ∃ found,
        innermostFunction tree line column = .ok found
        ∧ (found = none ↔ ∀ node span, ¬ FunctionAround tree line column node span)
        ∧ ∀ node span,
            found = some (node, span) → IsInnermost tree line column node span := by
  obtain ⟨spanOf, reads⟩ := spans.reads
  refine ⟨_, reads.innermostFunction_eq, ?_⟩
  have search :=
    foldl_tightestBy Prod.snd line column (located spanOf (allOfKind tree functionKind))
  split at search
  · rename_i nothing
    rw [nothing]
    refine ⟨iff_of_true rfl fun node span around => ?_, nofun⟩
    obtain ⟨member, holds⟩ := reads.functionAround_iff.mp around
    rw [search _ member] at holds
    cases holds
  · rename_i best found
    rw [found]
    have innermost := reads.isInnermost search
    refine ⟨iff_of_false nofun fun nowhere => nowhere _ _ innermost.around, ?_⟩
    rintro node span ⟨⟩
    exact innermost

end Search

/-- A function without a span. -/
def placelessFunction : Json :=
  .obj [("type", .str functionKind), ("name", .str "placeless")]

/-- A function whose last column is in front of its first one. -/
def hiddenFunction : Json :=
  spanned functionKind "hidden" ⟨⟨3, 20⟩, ⟨4, 1⟩⟩ []

/-- A function with the span of `hiddenFunction`. -/
def twinFunction : Json :=
  spanned functionKind "twin" ⟨⟨3, 20⟩, ⟨4, 1⟩⟩ []

/-- A node of an unknown kind with the three functions. -/
def unknownNode : Json :=
  .obj [("type", .str "Unknown"), ("parts", .arr [placelessFunction, hiddenFunction, twinFunction])]

/-- A function around the node of an unknown kind. -/
def wideFunction : Json :=
  spanned functionKind "wide" ⟨⟨3, 10⟩, ⟨4, 1⟩⟩ [("body", unknownNode)]

/-- A tree with all four functions. -/
def hidingTree : Json :=
  .obj [("type", .str "SourceUnit"), ("children", .arr [wideFunction])]

/-- The functions of the tree, from the top down. -/
theorem allOfKind_hidingTree
    : allOfKind hidingTree functionKind
      = [wideFunction, placelessFunction, hiddenFunction, twinFunction] := by
  have top : nodesOf hidingTree = hidingTree :: [wideFunction].flatMap nodesOf :=
    nodesOf_of_isNode rfl rfl
  have inWide : nodesOf wideFunction = wideFunction :: [unknownNode].flatMap nodesOf :=
    nodesOf_of_isNode rfl rfl
  have inUnknown
      : nodesOf unknownNode
        = unknownNode :: [placelessFunction, hiddenFunction, twinFunction].flatMap nodesOf :=
    nodesOf_of_isNode rfl rfl
  have inPlaceless : nodesOf placelessFunction = [placelessFunction] := nodesOf_of_isNode rfl rfl
  have inHidden : nodesOf hiddenFunction = [hiddenFunction] := nodesOf_of_isNode rfl rfl
  have inTwin : nodesOf twinFunction = [twinFunction] := nodesOf_of_isNode rfl rfl
  have whole
      : nodesOf hidingTree
        = [hidingTree, wideFunction, unknownNode, placelessFunction, hiddenFunction,
            twinFunction] := by
    simp [top, inWide, inUnknown, inPlaceless, inHidden, inTwin]
  rw [allOfKind_eq_filter, whole]
  rfl

/-- Behind column 20 of line 3 the innermost function is the hidden one. It is as tight as its twin,
which comes later, and lies in the wide one.
-/
theorem innermostFunction_isInnermost_hidingTree
    : SpansInIntegers hidingTree
      ∧ innermostFunction hidingTree 3 25 = .ok (some (hiddenFunction, ⟨⟨3, 20⟩, ⟨4, 1⟩⟩))
      ∧ IsInnermost hidingTree 3 25 hiddenFunction ⟨⟨3, 20⟩, ⟨4, 1⟩⟩ := by
  have spans : SpansInIntegers hidingTree := by
    intro node within function
    have listed := mem_allOfKind_iff.mpr ⟨within, function⟩
    rw [allOfKind_hidingTree] at listed
    simp only [List.mem_cons, List.not_mem_nil, or_false] at listed
    rcases listed with rfl | rfl | rfl | rfl
    · exact .inr ⟨_, carriesSpan_spanned⟩
    · exact .inl nofun
    · exact .inr ⟨_, carriesSpan_spanned⟩
    · exact .inr ⟨_, carriesSpan_spanned⟩
  have found
      : innermostFunction hidingTree 3 25 = .ok (some (hiddenFunction, ⟨⟨3, 20⟩, ⟨4, 1⟩⟩)) := by
    rw [innermostFunction, allOfKind_hidingTree]
    rfl
  obtain ⟨best, search, -, innermost⟩ := innermostFunction_isInnermost spans 3 25
  exact ⟨spans, found, innermost _ _ (Except.ok.inj (search.symm.trans found))⟩

end SolidityAtlas
