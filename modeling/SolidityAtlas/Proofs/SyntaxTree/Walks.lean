import SolidityAtlas.Proofs.SyntaxTree.Occurrences
import Mathlib.Algebra.Order.BigOperators.Group.List
import Mathlib.Algebra.Order.Ring.Nat
import Mathlib.Data.List.Perm.Subperm

/-! The recursive walk and the walk with a stack come to the same nodes in the same order. A tree
has no more nodes than values, so the walk with a stack has enough fuel to come to all of them.
-/

namespace SolidityAtlas

variable {node child : Json}

-----------------------------------------------------------------------------------------
-- Counting nodes
-----------------------------------------------------------------------------------------

/-- Items of an array count as much as they do one by one. -/
theorem countItems_eq_sum (items : List Json)
    : Json.countItems items = (items.map Json.count).sum := by
  induction items with
  | nil => rfl
  | cons item rest ih => rw [Json.countItems, ih, List.map_cons, List.sum_cons]

/-- Properties of an object count as much as their values do one by one. -/
theorem countFields_eq_sum (fields : List (String × Json))
    : Json.countFields fields = (fields.map fun field => field.2.count).sum := by
  induction fields with
  | nil => rfl
  | cons field rest ih => rw [Json.countFields, ih, List.map_cons, List.sum_cons]

/-- The nodes in a property count no more than the property. -/
theorem sum_count_nodesUnder_le (value : Json)
    : ((nodesUnder value).map Json.count).sum ≤ value.count := by
  cases value with
  | arr items =>
      have kept : ((items.filter isNode).map Json.count).sum ≤ (items.map Json.count).sum :=
        (List.filter_sublist.map Json.count).sum_le_sum fun _ _ => Nat.zero_le _
      rw [nodesUnder, Json.count, countItems_eq_sum]
      omega
  | null | bool _ | int _ | double _ | str _ | obj _ =>
      simp only [nodesUnder]
      split <;> simp

/-- The nodes in some of the properties of an object, each taken once, count no more than all of
them.
-/
theorem sum_count_flatMap_le {fields chosen : List (String × Json)}
    (among : chosen.Subperm fields)
    : ((chosen.flatMap fun field => nodesUnder field.2).map Json.count).sum
      ≤ Json.countFields fields := by
  obtain ⟨part, same, kept⟩ := among
  have each
      : (chosen.map fun field => ((nodesUnder field.2).map Json.count).sum).sum
        ≤ (chosen.map fun field => field.2.count).sum :=
    List.sum_le_sum fun field _ => sum_count_nodesUnder_le field.2
  have reordered := (same.map fun field => field.2.count).sum_nat
  have fewer : (part.map fun field => field.2.count).sum
      ≤ (fields.map fun field => field.2.count).sum :=
    (kept.map _).sum_le_sum fun _ _ => Nat.zero_le _
  rw [List.map_flatMap, List.flatMap_def, List.sum_flatten, List.map_map, countFields_eq_sum]
  exact each.trans (reordered.symm.le.trans fewer)

/-- No kind of node lists a property twice among those that hold its children. -/
theorem nodup_of_lookup_childSlots {kind : String} {slots : List String}
    (listed : childSlots.lookup kind = some slots)
    : slots.Nodup := by
  have all : ∀ entry ∈ childSlots, entry.2.Nodup := by decide
  obtain ⟨before, after, split, -⟩ := List.lookup_eq_some_iff.mp listed
  exact all (kind, slots) (by simp [split])

/-- The nodes in listed properties are the nodes in those of them that the object has. -/
theorem flatMap_field_eq (fields : List (String × Json)) (slots : List String)
    : (slots.flatMap fun slot => nodesUnder ((Json.obj fields).field slot))
      = (slots.filterMap fun slot => (fields.lookup slot).map fun value => (slot, value)).flatMap
          fun field => nodesUnder field.2 := by
  induction slots with
  | nil => rfl
  | cons slot rest ih =>
      rw [List.flatMap_cons, ih, Json.field, Json.field?]
      cases found : fields.lookup slot with
      | none => simp [found, nodesUnder, isNode, kindOf, Json.field, Json.field?, Json.string?]
      | some value => simp [found]

/-- The properties that are found under different names are properties of the object, each taken
once.
-/
theorem subperm_filterMap_lookup {slots : List String} (distinct : slots.Nodup)
    (fields : List (String × Json))
    : (slots.filterMap fun slot => (fields.lookup slot).map fun value => (slot, value)).Subperm
        fields := by
  refine List.subperm_of_subset (List.Nodup.filterMap ?_ distinct) ?_
  · intro slot other field first second
    obtain ⟨_, _, rfl⟩ := Option.map_eq_some_iff.mp first
    obtain ⟨_, _, same⟩ := Option.map_eq_some_iff.mp second
    exact (Prod.mk.inj same).1.symm
  · intro field member
    obtain ⟨slot, -, found⟩ := List.mem_filterMap.mp member
    obtain ⟨value, known, rfl⟩ := Option.map_eq_some_iff.mp found
    obtain ⟨before, after, split, -⟩ := List.lookup_eq_some_iff.mp known
    simp [split]

/-- The children of a node count less than the node. -/
theorem sum_count_children_lt (node : Json)
    : ((children node).map Json.count).sum < node.count := by
  cases node with
  | obj fields =>
      have fewer
          : ((children (.obj fields)).map Json.count).sum ≤ Json.countFields fields := by
        rw [children]
        split
        · rename_i kind _
          rw [childrenOfKind]
          split
          · simp
          · split
            · rename_i slots listed
              rw [flatMap_field_eq]
              exact sum_count_flatMap_le
                (subperm_filterMap_lookup (nodup_of_lookup_childSlots listed) fields)
            · exact sum_count_flatMap_le List.filter_sublist.subperm
        · simp
      rw [Json.count]
      omega
  | null | bool _ | int _ | double _ | str _ | arr _ =>
      simp [children, kindOf, Json.field, Json.field?, Json.string?, Json.count]

/-- A tree has no more nodes than values. Induction on the size of the tree. -/
theorem length_nodesOf_le (tree : Json) : (nodesOf tree).length ≤ tree.count := by
  have below := sum_count_children_lt tree
  cases known : isNode tree with
  | false =>
      rw [nodesOf_of_not_isNode known]
      exact Nat.zero_le _
  | true =>
      have each
          : ((children tree).map fun child => (nodesOf child).length).sum
            ≤ ((children tree).map Json.count).sum := by
        refine List.sum_le_sum fun child linked => ?_
        have smaller := sizeOf_lt_of_mem_children linked
        exact length_nodesOf_le child
      rw [nodesOf_of_isNode known rfl, List.length_cons, List.length_flatMap]
      omega
termination_by sizeOf tree

-----------------------------------------------------------------------------------------
-- The walk with a stack
-----------------------------------------------------------------------------------------

/-- The nodes in a property are nodes. -/
theorem isNode_of_mem_nodesUnder {value child : Json} (member : child ∈ nodesUnder value)
    : isNode child = true := by
  cases value with
  | arr items => exact (List.mem_filter.mp member).2
  | null | bool _ | int _ | double _ | str _ | obj _ =>
      simp only [nodesUnder] at member
      split at member
      · rename_i known
        exact List.mem_singleton.mp member ▸ known
      · cases member

/-- Children are nodes. -/
theorem isNode_of_mem_children (linked : child ∈ children node) : isNode child = true := by
  simp only [children] at linked
  split at linked
  · simp only [childrenOfKind] at linked
    split at linked
    · cases linked
    · split at linked
      · obtain ⟨slot, -, inSlot⟩ := List.mem_flatMap.mp linked
        exact isNode_of_mem_nodesUnder inSlot
      · split at linked
        · obtain ⟨field, -, inField⟩ := List.mem_flatMap.mp linked
          exact isNode_of_mem_nodesUnder inField
        · cases linked
  · cases linked

/-- All visits of a tree that a visit comes to. -/
def Visit.all (visit : Visit) : List Visit :=
  visits .ofAll visit.parent visit.node

/-- A visit of a node comes before those of its children. -/
theorem Visit.all_of_isNode {visit : Visit} (known : isNode visit.node = true)
    : visit.all
      = visit
        :: ((children visit.node).map fun child =>
            ({ node := child, parent := some visit.node } : Visit)).flatMap Visit.all := by
  rw [isNode, Option.isSome_iff_exists] at known
  obtain ⟨kind, found⟩ := known
  rw [all, visits_of_kind found, List.flatMap_map]
  rfl

/-- With enough fuel the walk with a stack lists all visits of the trees on the stack. Each step
takes one of them, so the fuel is enough if it covers all. Induction on the fuel.
-/
theorem preorderFrom_eq_flatMap {stack : List Visit} {fuel : Nat}
    (nodes : ∀ visit ∈ stack, isNode visit.node = true)
    (enough : (stack.flatMap Visit.all).length ≤ fuel)
    : preorderFrom fuel stack = stack.flatMap Visit.all := by
  induction fuel generalizing stack with
  | zero =>
      have none : stack.flatMap Visit.all = [] := List.eq_nil_of_length_eq_zero (by omega)
      rw [preorderFrom, none]
  | succ fuel ih =>
      cases stack with
      | nil => rfl
      | cons next stack =>
          obtain ⟨top, others⟩ := List.forall_mem_cons.mp nodes
          rw [List.flatMap_cons, Visit.all_of_isNode top, List.cons_append, ← List.flatMap_append]
            at enough ⊢
          rw [preorderFrom, ih]
          · intro visit member
            rcases List.mem_append.mp member with new | old
            · obtain ⟨child, linked, rfl⟩ := List.mem_map.mp new
              exact isNode_of_mem_children linked
            · exact others visit old
          · rw [List.length_cons] at enough
            omega

/-- The walk with a stack comes to what the recursive walk shows to a visitor of all nodes. -/
theorem preorder_eq_visits (tree : Json) : preorder tree = visits .ofAll none tree := by
  rw [preorder]
  split
  · rename_i known
    have fewer : (visits .ofAll none tree).length ≤ tree.count := by
      have onward : ∀ visit, Visitor.ofAll.stops visit = false := fun _ => rfl
      rw [← List.length_map (·.node), map_node_visits onward]
      exact (List.length_filter_le _ _).trans (length_nodesOf_le tree)
    rw [preorderFrom_eq_flatMap]
    · simp [Visit.all]
    · simpa using known
    · simpa [Visit.all] using fewer
  · rename_i other
    have noKind : kindOf tree = none := by simpa [isNode] using other
    rw [visits, noKind]

/-- The walk with a stack lists the nodes of a tree at all their places. The recursive walk calls a
visitor at just those places whose nodes it wants to see and that are not below one where it was
called and stopped, whatever it answers at which place. An answer that does not depend on the place
is a case of this. So the nodes of a kind are those that the walk with a stack lists, in order, and
the first node of a kind is the first of them.
-/
theorem visits_agree_preorder (tree : Json)
    : (occurrences tree).map (·.visit) = preorder tree
      ∧ ((occurrences tree).map (·.place)).Nodup
      ∧ (∀ visitor : LocalVisitor,
          visitor.calls [] none tree
          = (occurrences tree).filter (visitor.Sees (occurrences tree)))
      ∧ (∀ visitor : Visitor,
          visits visitor none tree = (visitor.everywhere.calls [] none tree).map (·.visit))
      ∧ (∀ kind,
          allOfKind tree kind
          = ((preorder tree).map (·.node)).filter fun node => kindOf node = some kind)
      ∧ ∀ kind, firstOfKind tree kind = (allOfKind tree kind).head? := by
  have ofKind (kind : String)
      : allOfKind tree kind
        = ((preorder tree).map (·.node)).filter fun node => kindOf node = some kind := by
    rw [preorder_eq_visits, map_node_visits fun _ => rfl, allOfKind_eq_filter, List.filter_filter]
    refine List.filter_congr fun node _ => ?_
    cases kindOf node <;> simp [Visitor.ofAll]
  refine ⟨?_, nodup_place_occurrencesAt [] none tree, ?_, ?_, ofKind, ?_⟩
  · rw [occurrences, map_visit_occurrencesAt, preorder_eq_visits]
  · exact fun visitor => visitor.calls_eq_filter [] none tree
  · exact fun visitor => (map_visit_calls visitor [] none tree).symm
  · intro kind
    rw [ofKind, List.head?_filter, List.find?_map, firstOfKind]
    rfl

end SolidityAtlas
