import SolidityAtlas.Proofs.SyntaxTree.Descendants
import Mathlib.Data.List.Infix
import Mathlib.Data.List.Nodup

/-! What the recursive walk shows to a visitor. Equal nodes may stand at several places of a tree,
so what is above a node, and what a visitor answers there, is said of places: a visitor sees a node
that it wants to see unless it has stopped the walk at a place above.
-/

namespace SolidityAtlas

/-- A node that a walk comes to, at its place: the numbers of the children that lead to it from the
top of the tree.
-/
structure Occurrence where
  place : List Nat
  visit : Visit

/-- The top of the tree that stands at a place. -/
def Occurrence.top (place : List Nat) (parent : Option Json) (node : Json) : Occurrence :=
  { place := place, visit := { node := node, parent := parent } }

/-- An occurrence is above another one if its place is on the way to the place of the other. -/
def Occurrence.Above (upper lower : Occurrence) : Prop :=
  upper.place <+: lower.place ∧ upper.place ≠ lower.place

instance {upper lower : Occurrence} : Decidable (upper.Above lower) :=
  inferInstanceAs (Decidable (upper.place <+: lower.place ∧ upper.place ≠ lower.place))

/-- The nodes of the tree that stands at a place, each before those below it. -/
def occurrencesAt (place : List Nat) (parent : Option Json) (node : Json) : List Occurrence :=
  if isNode node then
    .top place parent node
      :: (children node).attach.zipIdx.flatMap fun (⟨child, _⟩, number) =>
        occurrencesAt (place ++ [number]) (some node) child
  else []
termination_by sizeOf node
decreasing_by exact sizeOf_lt_of_mem_children (by assumption)

/-- The nodes of a tree with their places. -/
def occurrences (tree : Json) : List Occurrence :=
  occurrencesAt [] none tree

/-- A visitor that may answer differently at every place, even where the nodes are equal. -/
structure LocalVisitor where
  wants : String → Bool
  stops : Occurrence → Bool

/-- A visitor that only looks at the node and its parent. -/
def Visitor.everywhere (visitor : Visitor) : LocalVisitor :=
  { wants := visitor.wants, stops := fun here => visitor.stops here.visit }

namespace LocalVisitor

variable {visitor : LocalVisitor} {place : List Nat} {parent : Option Json} {node tree : Json}
  {here upper lower : Occurrence}

/-- Whether a visitor is called at an occurrence that the walk comes to. -/
def isCalled (visitor : LocalVisitor) (here : Occurrence) : Bool :=
  (kindOf here.visit.node).any visitor.wants

/-- The occurrences at which the recursive walk calls a visitor. -/
def calls (visitor : LocalVisitor) (place : List Nat) (parent : Option Json) (node : Json)
    : List Occurrence :=
  match kindOf node with
  | none => []
  | some kind =>
      let here := Occurrence.top place parent node
      let below := (children node).attach.zipIdx.flatMap fun (⟨child, _⟩, number) =>
        calls visitor (place ++ [number]) (some node) child
      if visitor.wants kind then
        if visitor.stops here then [here] else here :: below
      else below
termination_by sizeOf node
decreasing_by exact sizeOf_lt_of_mem_children (by assumption)

/-- A visitor sees an occurrence among all of a tree: it wants to, and wherever it was called above,
it let the walk go on.
-/
def Sees (visitor : LocalVisitor) (all : List Occurrence) (here : Occurrence) : Prop :=
  visitor.isCalled here = true
  ∧ ∀ upper ∈ all, upper.Above here → visitor.isCalled upper = true → visitor.stops upper = false

instance {all : List Occurrence} : Decidable (visitor.Sees all here) :=
  inferInstanceAs
    (Decidable
      (visitor.isCalled here = true
        ∧ ∀ upper ∈ all,
            upper.Above here → visitor.isCalled upper = true → visitor.stops upper = false))

end LocalVisitor

variable {tree node child : Json} {parent : Option Json} {place : List Nat}
  {here upper lower : Occurrence}

-----------------------------------------------------------------------------------------
-- Occurrences
-----------------------------------------------------------------------------------------

/-- Attached items are numbered like the items. -/
theorem flatMap_zipIdx_attach {α β : Type} (items : List α) (f : α → Nat → List β)
    : (items.attach.zipIdx.flatMap fun (item, number) => f item.1 number)
      = items.zipIdx.flatMap fun (item, number) => f item number := by
  have numbered : items.attach.zipIdx.map (Prod.map Subtype.val id) = items.zipIdx := by
    rw [← List.zipIdx_map, List.attach_map_subtype_val]
  rw [← numbered, List.flatMap_map]
  rfl

/-- A node comes before the nodes below it, which stand at the places of its children. -/
theorem occurrencesAt_of_isNode (isNode : isNode node = true) (place : List Nat)
    (parent : Option Json)
    : occurrencesAt place parent node
      = .top place parent node
        :: (children node).zipIdx.flatMap fun (child, number) =>
          occurrencesAt (place ++ [number]) (some node) child := by
  rw [occurrencesAt, if_pos isNode]
  exact congrArg _ (flatMap_zipIdx_attach (children node) fun child number =>
    occurrencesAt (place ++ [number]) (some node) child)

/-- What is no node has no occurrences. -/
theorem occurrencesAt_of_not_isNode (other : isNode node = false)
    : occurrencesAt place parent node = [] := by
  rw [occurrencesAt, if_neg (by simp [other])]

/-- The occurrences in a tree stand at places behind the place of the tree. -/
theorem prefix_of_mem_occurrencesAt {node : Json} {parent : Option Json} {place : List Nat}
    (member : here ∈ occurrencesAt place parent node)
    : place <+: here.place := by
  cases isNode : isNode node with
  | false =>
      rw [occurrencesAt_of_not_isNode isNode] at member
      cases member
  | true =>
      rw [occurrencesAt_of_isNode isNode, List.mem_cons, List.mem_flatMap] at member
      rcases member with rfl | ⟨⟨child, number⟩, numbered, below⟩
      · exact List.prefix_rfl
      · have smaller := sizeOf_lt_of_mem_children (List.fst_mem_of_mem_zipIdx numbered)
        exact (List.prefix_append place [number]).trans (prefix_of_mem_occurrencesAt below)
termination_by sizeOf node

/-- An occurrence in a child stands below the node. -/
theorem Occurrence.top_above {number : Nat}
    (member : lower ∈ occurrencesAt (place ++ [number]) (some node) child)
    : (top place parent node).Above lower := by
  have behind := prefix_of_mem_occurrencesAt member
  refine ⟨(List.prefix_append place [number]).trans behind, ?_⟩
  rintro rfl
  have longer := behind.length_le
  rw [List.length_append, List.length_singleton] at longer
  omega

/-- Nothing in a tree is above the top of the tree. -/
theorem Occurrence.not_above_top (member : upper ∈ occurrencesAt place parent node)
    : ¬ upper.Above (top place parent node) := by
  rintro ⟨before, other⟩
  exact other (before.eq_of_length_le (prefix_of_mem_occurrencesAt member).length_le)

/-- Two ways to one place take the same child. -/
theorem number_eq_of_same_way {number other : Nat} {way : List Nat}
    (first : place ++ [number] <+: way) (second : place ++ [other] <+: way)
    : number = other := by
  have sameLength : (place ++ [number]).length = (place ++ [other]).length := by simp
  have same := (List.prefix_of_prefix_length_le first second sameLength.le).eq_of_length sameLength
  simpa using same

/-- What is above an occurrence in a child, and below the node, is in the same child. -/
theorem Occurrence.Above.same_child {number other : Nat} {sibling : Json} {siblings : List Json}
    (above : upper.Above lower)
    (numbered : (child, number) ∈ siblings.zipIdx)
    (otherNumbered : (sibling, other) ∈ siblings.zipIdx)
    (inChild : lower ∈ occurrencesAt (place ++ [number]) parent child)
    (inSibling : upper ∈ occurrencesAt (place ++ [other]) parent sibling)
    : upper ∈ occurrencesAt (place ++ [number]) parent child := by
  have toSibling := (prefix_of_mem_occurrencesAt inSibling).trans above.1
  obtain rfl := number_eq_of_same_way (prefix_of_mem_occurrencesAt inChild) toSibling
  have here := List.mem_zipIdx_iff_getElem?.mp numbered
  obtain rfl : child = sibling :=
    Option.some.inj (here.symm.trans (List.mem_zipIdx_iff_getElem?.mp otherNumbered))
  exact inSibling

/-- No two nodes stand at one place. Induction on the size of the tree. -/
theorem nodup_place_occurrencesAt (place : List Nat) (parent : Option Json) (node : Json)
    : ((occurrencesAt place parent node).map (·.place)).Nodup := by
  cases known : isNode node with
  | false =>
      rw [occurrencesAt_of_not_isNode known]
      exact List.nodup_nil
  | true =>
      rw [occurrencesAt_of_isNode known, List.map_cons, List.nodup_cons, List.map_flatMap,
        List.nodup_flatMap]
      refine ⟨?_, ?_, ?_⟩
      · intro again
        obtain ⟨⟨child, number⟩, -, below⟩ := List.mem_flatMap.mp again
        obtain ⟨lower, member, same⟩ := List.mem_map.mp below
        have above : (Occurrence.top place parent node).Above lower := Occurrence.top_above member
        exact above.2 same.symm
      · intro ⟨child, number⟩ numbered
        have smaller := sizeOf_lt_of_mem_children (List.fst_mem_of_mem_zipIdx numbered)
        exact nodup_place_occurrencesAt (place ++ [number]) (some node) child
      · have numbers : ((children node).zipIdx.map Prod.snd).Nodup := by
          rw [List.zipIdx_map_snd]
          exact List.nodup_range'
        refine (List.pairwise_map.mp numbers).imp fun {first second} different way here there => ?_
        obtain ⟨one, oneMember, rfl⟩ := List.mem_map.mp here
        obtain ⟨other, otherMember, same⟩ := List.mem_map.mp there
        exact different (number_eq_of_same_way (prefix_of_mem_occurrencesAt oneMember)
          (same ▸ prefix_of_mem_occurrencesAt otherMember))
termination_by sizeOf node

-----------------------------------------------------------------------------------------
-- The recursive walk
-----------------------------------------------------------------------------------------

namespace LocalVisitor

variable {visitor : LocalVisitor}

/-- A visitor is called at a node, if it wants it, and then, unless it stops there, where it is
called in the children.
-/
theorem calls_of_kind {kind : String} (found : kindOf node = some kind) (place : List Nat)
    (parent : Option Json)
    : visitor.calls place parent node
      = (if visitor.wants kind = true then [.top place parent node] else [])
        ++ if visitor.wants kind = true ∧ visitor.stops (.top place parent node) = true then []
          else
            (children node).zipIdx.flatMap fun (child, number) =>
              visitor.calls (place ++ [number]) (some node) child := by
  rw [calls, found]
  simp only [flatMap_zipIdx_attach (children node) fun child number =>
    visitor.calls (place ++ [number]) (some node) child]
  cases visitor.wants kind with
  | false => rfl
  | true => cases visitor.stops (.top place parent node) <;> rfl

/-- A visitor sees the top of a tree if it wants to. -/
theorem sees_top_iff
    : visitor.Sees (occurrencesAt place parent node) (.top place parent node)
      ↔ visitor.isCalled (.top place parent node) = true := by
  refine and_iff_left fun upper member above => ?_
  exact absurd above (Occurrence.not_above_top member)

/-- Among the occurrences of a node a visitor sees one in a child if it sees it among those of the
child, unless it stops the walk at the node.
-/
theorem sees_below_iff {number : Nat} (isNode : isNode node = true)
    (numbered : (child, number) ∈ (children node).zipIdx)
    (member : lower ∈ occurrencesAt (place ++ [number]) (some node) child)
    : visitor.Sees (occurrencesAt place parent node) lower
      ↔ (visitor.isCalled (.top place parent node) = true
          → visitor.stops (.top place parent node) = false)
        ∧ visitor.Sees (occurrencesAt (place ++ [number]) (some node) child) lower := by
  simp only [Sees, occurrencesAt_of_isNode isNode, List.forall_mem_cons]
  constructor
  · rintro ⟨called, atTop, below⟩
    refine ⟨atTop (Occurrence.top_above member), called, fun upper inChild => ?_⟩
    exact below upper (List.mem_flatMap.mpr ⟨(child, number), numbered, inChild⟩)
  · rintro ⟨atTop, called, inChild⟩
    refine ⟨called, fun _ => atTop, fun upper below above => ?_⟩
    obtain ⟨⟨sibling, other⟩, otherNumbered, inSibling⟩ := List.mem_flatMap.mp below
    exact inChild upper (above.same_child numbered otherNumbered member inSibling) above

/-- What a visitor sees of a child: nothing, if it stops the walk at the node, or else what it sees
of the child by itself.
-/
theorem filter_sees_child {number : Nat} (isNode : isNode node = true)
    (numbered : (child, number) ∈ (children node).zipIdx)
    : (occurrencesAt (place ++ [number]) (some node) child).filter
        (visitor.Sees (occurrencesAt place parent node))
      = if visitor.isCalled (.top place parent node) = true
            ∧ visitor.stops (.top place parent node) = true then []
        else
          (occurrencesAt (place ++ [number]) (some node) child).filter
            (visitor.Sees (occurrencesAt (place ++ [number]) (some node) child)) := by
  split
  · rename_i stopped
    refine List.filter_eq_nil_iff.mpr fun lower member seen => ?_
    have onward := ((sees_below_iff isNode numbered member).mp (of_decide_eq_true seen)).1
    exact absurd (onward stopped.1) (by simp [stopped.2])
  · rename_i goesOn
    refine List.filter_congr fun lower member => decide_eq_decide.mpr ?_
    rw [sees_below_iff isNode numbered member]
    refine and_iff_right fun called => ?_
    exact Bool.eq_false_iff.mpr fun stops => goesOn ⟨called, stops⟩

/-- What a visitor sees of a node: the node, if it wants it, and what it sees of the children. -/
theorem filter_sees_of_isNode (isNode : isNode node = true)
    : (occurrencesAt place parent node).filter (visitor.Sees (occurrencesAt place parent node))
      = (if visitor.isCalled (.top place parent node) = true then [.top place parent node] else [])
        ++ (children node).zipIdx.flatMap fun (child, number) =>
          (occurrencesAt (place ++ [number]) (some node) child).filter
            (visitor.Sees (occurrencesAt place parent node)) := by
  refine (congrArg _ (occurrencesAt_of_isNode isNode place parent)).trans ?_
  rw [List.filter_cons, List.filter_flatMap]
  simp only [decide_eq_true_eq, sees_top_iff]
  split <;> rfl

/-- The recursive walk calls a visitor at just the occurrences that it sees. Induction on the size
of the tree, as the walk goes from a node to its children.
-/
theorem calls_eq_filter (visitor : LocalVisitor) (place : List Nat) (parent : Option Json)
    (node : Json)
    : visitor.calls place parent node
      = (occurrencesAt place parent node).filter
          (visitor.Sees (occurrencesAt place parent node)) := by
  cases found : kindOf node with
  | none =>
      rw [occurrencesAt_of_not_isNode (by rw [isNode, found]; rfl), calls, found]
      rfl
  | some kind =>
      have known : isNode node = true := by
        rw [isNode, found]
        rfl
      have called : visitor.isCalled (.top place parent node) = visitor.wants kind := by
        simp [isCalled, Occurrence.top, found]
      rw [calls_of_kind found, filter_sees_of_isNode known, called]
      congr 1
      split
      · rename_i stopped
        rw [← called] at stopped
        refine (List.flatMap_eq_nil_iff.mpr ?_).symm
        rintro ⟨child, number⟩ numbered
        exact (filter_sees_child known numbered).trans (if_pos stopped)
      · rename_i goesOn
        rw [← called] at goesOn
        refine List.flatMap_congr ?_
        rintro ⟨child, number⟩ numbered
        have smaller := sizeOf_lt_of_mem_children (List.fst_mem_of_mem_zipIdx numbered)
        refine Eq.trans ?_ ((filter_sees_child known numbered).trans (if_neg goesOn)).symm
        exact calls_eq_filter visitor (place ++ [number]) (some node) child
termination_by sizeOf node

end LocalVisitor

-----------------------------------------------------------------------------------------
-- Visits without places
-----------------------------------------------------------------------------------------

/-- The visitor that wants to see every node. -/
def Visitor.ofAll : Visitor :=
  { wants := fun _ => true, stops := fun _ => false }

/-- A visitor sees a node, if it wants it, and then, unless it stops there, what it sees of the
children.
-/
theorem visits_of_kind {visitor : Visitor} {kind : String} (found : kindOf node = some kind)
    (parent : Option Json)
    : visits visitor parent node
      = (if visitor.wants kind = true then [{ node := node, parent := parent }] else [])
        ++ if visitor.wants kind = true
              ∧ visitor.stops { node := node, parent := parent } = true then []
          else (children node).flatMap (visits visitor (some node)) := by
  rw [visits, found]
  simp only [List.flatMap_subtype, List.unattach_attach]
  cases visitor.wants kind with
  | false => rfl
  | true => cases visitor.stops { node := node, parent := parent } <;> rfl

/-- A visitor that does not look at places is called for the nodes that it sees. Induction on the
size of the tree.
-/
theorem map_visit_calls (visitor : Visitor) (place : List Nat) (parent : Option Json) (node : Json)
    : (visitor.everywhere.calls place parent node).map (·.visit) = visits visitor parent node := by
  cases found : kindOf node with
  | none =>
      rw [LocalVisitor.calls, visits, found]
      rfl
  | some kind =>
      have inChildren
          : (children node).zipIdx.flatMap (fun (child, number) =>
              (visitor.everywhere.calls (place ++ [number]) (some node) child).map (·.visit))
            = (children node).flatMap (visits visitor (some node)) := by
        conv_rhs => rw [← List.zipIdx_map_fst 0 (children node), List.flatMap_map]
        refine List.flatMap_congr ?_
        rintro ⟨child, number⟩ numbered
        have smaller := sizeOf_lt_of_mem_children (List.fst_mem_of_mem_zipIdx numbered)
        exact map_visit_calls visitor (place ++ [number]) (some node) child
      rw [LocalVisitor.calls_of_kind found, visits_of_kind found, List.map_append, ← inChildren]
      simp only [apply_ite (List.map _), List.map_flatMap]
      rfl
termination_by sizeOf node

/-- The occurrences of a tree are nodes. -/
theorem isNode_of_mem_occurrencesAt {node : Json} {parent : Option Json} {place : List Nat}
    (member : here ∈ occurrencesAt place parent node)
    : isNode here.visit.node = true := by
  cases known : isNode node with
  | false =>
      rw [occurrencesAt_of_not_isNode known] at member
      cases member
  | true =>
      rw [occurrencesAt_of_isNode known, List.mem_cons, List.mem_flatMap] at member
      rcases member with rfl | ⟨⟨child, number⟩, numbered, below⟩
      · exact known
      · have smaller := sizeOf_lt_of_mem_children (List.fst_mem_of_mem_zipIdx numbered)
        exact isNode_of_mem_occurrencesAt below
termination_by sizeOf node

/-- The occurrences of a tree without their places are all its visits. -/
theorem map_visit_occurrencesAt (place : List Nat) (parent : Option Json) (node : Json)
    : (occurrencesAt place parent node).map (·.visit) = visits .ofAll parent node := by
  have all
      : Visitor.ofAll.everywhere.calls place parent node = occurrencesAt place parent node := by
    rw [LocalVisitor.calls_eq_filter, List.filter_eq_self]
    intro here member
    refine decide_eq_true ⟨?_, fun _ _ _ _ => rfl⟩
    have known := isNode_of_mem_occurrencesAt member
    rw [isNode, Option.isSome_iff_exists] at known
    obtain ⟨kind, found⟩ := known
    rw [LocalVisitor.isCalled, found]
    rfl
  rw [← all, map_visit_calls]

end SolidityAtlas
