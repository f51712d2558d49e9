import SolidityAtlas.SyntaxTree.Walk
import Mathlib.Data.List.Basic

/-! The nodes within a tree, by way of children, are what walks over the tree come to. A walk that
never stops sees exactly the nodes within the tree that it wants to see.
-/

namespace SolidityAtlas

/-- `Within tree node`: steps from a value to one of its children lead from `tree` to `node`. -/
inductive Within : Json → Json → Prop
  | self (tree : Json) : Within tree tree
  | under {tree child node : Json} (member : child ∈ children tree) (rest : Within child node)
    : Within tree node

/-- The nodes within a tree are the tree itself and the nodes within its children. -/
theorem within_iff {tree node : Json}
    : Within tree node ↔ node = tree ∨ ∃ child ∈ children tree, Within child node := by
  constructor
  · intro within
    cases within with
    | self => exact .inl rfl
    | under member rest => exact .inr ⟨_, member, rest⟩
  · rintro (rfl | ⟨child, member, rest⟩)
    · exact .self _
    · exact .under member rest

/-- All nodes of a tree, each before the nodes within its children; other values hold none. -/
def nodesOf (tree : Json) : List Json :=
  if isNode tree then
    tree :: (children tree).attach.flatMap fun ⟨child, _⟩ => nodesOf child
  else []
termination_by sizeOf tree
decreasing_by exact sizeOf_lt_of_mem_children (by assumption)

/-- A node comes before the nodes within its children. -/
theorem nodesOf_of_isNode {tree : Json} {below : List Json} (node : isNode tree = true)
    (linked : children tree = below)
    : nodesOf tree = tree :: below.flatMap nodesOf := by
  rw [nodesOf, if_pos node, ← linked]
  simp only [List.flatMap_subtype, List.unattach_attach]

/-- What is no node holds no nodes. -/
theorem nodesOf_of_not_isNode {tree : Json} (other : isNode tree = false) : nodesOf tree = [] := by
  rw [nodesOf, if_neg (by simp [other])]

/-- The items of an array; other values have none. -/
def itemsOf : Json → List Json
  | .arr items => items
  | _ => []

/-- An item of a property that the table lists for a kind of node is a child, if it is a node. -/
theorem mem_children_of_item {node child : Json} {kind slot : String} {slots : List String}
    (found : kindOf node = some kind) (noLeaf : kind ∉ leafKinds)
    (listed : childSlots.lookup kind = some slots) (known : slot ∈ slots)
    (member : child ∈ itemsOf (node.field slot)) (isChild : isNode child = true)
    : child ∈ children node := by
  rw [children, found]
  simp only [childrenOfKind, if_neg noLeaf, listed, List.mem_flatMap]
  refine ⟨slot, known, ?_⟩
  cases items : node.field slot with
  | arr values =>
      rw [items] at member
      exact List.mem_filter.mpr ⟨member, isChild⟩
  | null | bool _ | int _ | double _ | str _ | obj _ =>
      rw [items] at member
      cases member

/-- What a walk sees that never stops: a node, if it wants it, and then what it sees of the
children.
-/
theorem visits_of_onward {visitor : Visitor} (onward : ∀ visit, visitor.stops visit = false)
    {tree : Json} {kind : String} (found : kindOf tree = some kind) (parent : Option Json)
    : visits visitor parent tree
      = (if visitor.wants kind then [{ node := tree, parent := parent }] else [])
        ++ (children tree).flatMap (visits visitor (some tree)) := by
  rw [visits, found]
  simp only [onward, Bool.false_eq_true, if_false, List.flatMap_subtype, List.unattach_attach]
  split <;> rfl

/-- A walk that never stops sees the nodes it wants to see among those within the tree. Induction
on the size of the tree, as the walk goes from a node to its children.
-/
theorem mem_visits_iff {visitor : Visitor} (onward : ∀ visit, visitor.stops visit = false)
    {tree : Json} {parent : Option Json} {node : Json}
    : (∃ visit ∈ visits visitor parent tree, visit.node = node)
      ↔ Within tree node ∧ ∃ kind, kindOf node = some kind ∧ visitor.wants kind = true := by
  cases found : kindOf tree with
  | none =>
      have noChildren : children tree = [] := by rw [children, found]
      rw [visits, found]
      constructor
      · rintro ⟨visit, member, -⟩
        cases member
      · rintro ⟨within, kind, named, -⟩
        cases within with
        | self =>
            rw [found] at named
            cases named
        | under member =>
            rw [noChildren] at member
            cases member
  | some kind =>
      rw [visits_of_onward onward found]
      constructor
      · rintro ⟨visit, member, rfl⟩
        rcases List.mem_append.mp member with here | below
        · split at here
          · rename_i wanted
            obtain rfl := List.mem_singleton.mp here
            exact ⟨.self tree, kind, found, wanted⟩
          · cases here
        · obtain ⟨child, linked, seen⟩ := List.mem_flatMap.mp below
          have smaller := sizeOf_lt_of_mem_children linked
          obtain ⟨within, wanted⟩ := (mem_visits_iff onward).mp ⟨visit, seen, rfl⟩
          exact ⟨.under linked within, wanted⟩
      · rintro ⟨within, other, named, wanted⟩
        cases within with
        | self =>
            obtain rfl : other = kind := Option.some.inj (named.symm.trans found)
            rw [if_pos wanted]
            exact ⟨_, List.mem_append_left _ List.mem_cons_self, rfl⟩
        | under linked rest =>
            have smaller := sizeOf_lt_of_mem_children linked
            obtain ⟨visit, seen, same⟩ := (mem_visits_iff onward).mpr ⟨rest, other, named, wanted⟩
            exact ⟨visit, List.mem_append_right _ (List.mem_flatMap.mpr ⟨_, linked, seen⟩), same⟩
termination_by sizeOf tree

/-- A walk that never stops sees the nodes of the tree that it wants to see, in order. Induction on
the size of the tree, as the walk goes from a node to its children.
-/
theorem map_node_visits {visitor : Visitor} (onward : ∀ visit, visitor.stops visit = false)
    (tree : Json) (parent : Option Json)
    : (visits visitor parent tree).map (·.node)
      = (nodesOf tree).filter fun node => (kindOf node).any visitor.wants := by
  cases found : kindOf tree with
  | none =>
      rw [nodesOf_of_not_isNode (by rw [isNode, found]; rfl), visits, found]
      rfl
  | some kind =>
      have below
          : (children tree).flatMap (fun child =>
              (visits visitor (some tree) child).map (·.node))
            = (children tree).flatMap fun child =>
                (nodesOf child).filter fun node => (kindOf node).any visitor.wants := by
        refine List.flatMap_congr fun child linked => ?_
        have smaller := sizeOf_lt_of_mem_children linked
        exact map_node_visits onward child (some tree)
      rw [nodesOf_of_isNode (by rw [isNode, found]; rfl) rfl, visits_of_onward onward found,
        List.map_append, List.map_flatMap, below, List.filter_cons, List.filter_flatMap, found,
        Option.any_some]
      split <;> rfl
termination_by sizeOf tree

/-- The nodes of a kind are those of all nodes that are of the kind, in order. -/
theorem allOfKind_eq_filter (tree : Json) (kind : String)
    : allOfKind tree kind = (nodesOf tree).filter fun node => kindOf node = some kind := by
  rw [allOfKind, map_node_visits fun _ => rfl]
  refine List.filter_congr fun node _ => ?_
  cases kindOf node <;> simp [Visitor.ofKind]

/-- The nodes of a kind are the nodes within the tree that are of the kind. -/
theorem mem_allOfKind_iff {tree node : Json} {kind : String}
    : node ∈ allOfKind tree kind ↔ Within tree node ∧ kindOf node = some kind := by
  rw [allOfKind, List.mem_map, mem_visits_iff fun _ => rfl]
  simp [Visitor.ofKind]

end SolidityAtlas
