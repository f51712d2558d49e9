import SolidityAtlas.SyntaxTree.Kind

/-! Walks over syntax trees. `visits` descends recursively and reports to a visitor, which may stop
the descent below a node; `preorder` keeps the nodes still to come on a stack. Both list a node
before its children and children in the order of `children`.
-/

namespace SolidityAtlas

/-- The nodes in a property: the property itself, or the nodes in it where it is an array. -/
def nodesUnder : Json → List Json
  | .arr items => items.filter isNode
  | value => if isNode value then [value] else []

/-- The children of a node of a kind. A kind without a table entry may have them in every property
but the ones that say where the node stands.
-/
def childrenOfKind (kind : String) (node : Json) : List Json :=
  if kind ∈ leafKinds then []
  else
    match childSlots.lookup kind with
    | some slots => slots.flatMap fun slot => nodesUnder (node.field slot)
    | none =>
        match node with
        | .obj fields =>
            (fields.filter fun field => field.1 ≠ "loc" ∧ field.1 ≠ "range").flatMap
              fun field => nodesUnder field.2
        | _ => []

/-- The children of a value; a value that is no node has none. -/
def children (node : Json) : List Json :=
  match kindOf node with
  | some kind => childrenOfKind kind node
  | none => []

/-- The value of a property of an object is smaller than the object. -/
theorem sizeOf_lt_of_mem_fields {fields : List (String × Json)} {field : String × Json}
    (h : field ∈ fields)
    : sizeOf field.2 < sizeOf (Json.obj fields) := by
  have hle := List.sizeOf_lt_of_mem h
  have hfield : sizeOf field = 1 + sizeOf field.1 + sizeOf field.2 := rfl
  have hobj := Json.obj.sizeOf_spec fields
  omega

/-- A property that is not null is smaller than the value it belongs to. -/
theorem sizeOf_field_lt {value : Json} {name : String} (h : value.field name ≠ .null)
    : sizeOf (value.field name) < sizeOf value := by
  cases value with
  | obj fields =>
      simp only [Json.field, Json.field?] at h ⊢
      cases hl : fields.lookup name with
      | none => simp [hl] at h
      | some found =>
          simp only [Option.getD_some]
          have hmem : ∃ key, (key, found) ∈ fields := by
            clear h
            induction fields with
            | nil => simp at hl
            | cons field rest ih =>
                rw [List.lookup_cons] at hl
                split at hl
                · have he : field.2 = found := Option.some.inj hl
                  exact ⟨field.1, by simp [← he]⟩
                · obtain ⟨key, hk⟩ := ih hl
                  exact ⟨key, List.mem_cons_of_mem _ hk⟩
          obtain ⟨key, hk⟩ := hmem
          exact sizeOf_lt_of_mem_fields hk
  | null | bool _ | int _ | double _ | str _ | arr _ => simp [Json.field, Json.field?] at h

/-- A node in a property is at most as large as the property, and never null. -/
theorem sizeOf_le_of_mem_nodesUnder {value child : Json} (h : child ∈ nodesUnder value)
    : sizeOf child ≤ sizeOf value ∧ value ≠ .null := by
  cases value with
  | arr items =>
      have hmem := (List.mem_filter.mp h).1
      have hlt := List.sizeOf_lt_of_mem hmem
      have harr := Json.arr.sizeOf_spec items
      exact ⟨by omega, by simp⟩
  | null => simp [nodesUnder, isNode, kindOf, Json.field, Json.field?, Json.string?] at h
  | obj fields =>
      simp only [nodesUnder] at h
      split at h
      · rw [List.mem_singleton] at h
        exact ⟨Nat.le_of_eq (by rw [h]), by simp⟩
      · simp at h
  | bool _ | int _ | double _ | str _ =>
      simp [nodesUnder, isNode, kindOf, Json.field, Json.field?, Json.string?] at h

/-- Children are smaller than their parent, which is why walks end. -/
theorem sizeOf_lt_of_mem_children {node child : Json} (h : child ∈ children node)
    : sizeOf child < sizeOf node := by
  simp only [children] at h
  split at h
  · rename_i kind _
    simp only [childrenOfKind] at h
    split at h
    · simp at h
    · split at h
      · obtain ⟨slot, _, hc⟩ := List.mem_flatMap.mp h
        obtain ⟨hle, hne⟩ := sizeOf_le_of_mem_nodesUnder hc
        exact Nat.lt_of_le_of_lt hle (sizeOf_field_lt hne)
      · split at h
        · obtain ⟨field, hf, hc⟩ := List.mem_flatMap.mp h
          obtain ⟨hle, _⟩ := sizeOf_le_of_mem_nodesUnder hc
          exact Nat.lt_of_le_of_lt hle (sizeOf_lt_of_mem_fields (List.mem_filter.mp hf).1)
        · simp at h
  · simp at h

/-- A node that a walk came to, and the node it came from. -/
structure Visit where
  node : Json
  parent : Option Json

/-- What a walk reports to: the kinds of node it wants to see, and whether the walk stays above a
node it sees.
-/
structure Visitor where
  wants : String → Bool
  stops : Visit → Bool

/-- A visitor of the nodes of one kind, which never stops the walk. -/
def Visitor.ofKind (kind : String) : Visitor :=
  { wants := fun other => other = kind, stops := fun _ => false }

/-- What a visitor sees of a tree, in the order in which it sees it. -/
def visits (visitor : Visitor) (parent : Option Json) (node : Json) : List Visit :=
  match kindOf node with
  | none => []
  | some kind =>
      let here : Visit := { node := node, parent := parent }
      let below := (children node).attach.flatMap fun ⟨child, _⟩ =>
        visits visitor (some node) child
      if visitor.wants kind then
        if visitor.stops here then [here] else here :: below
      else below
termination_by sizeOf node
decreasing_by exact sizeOf_lt_of_mem_children (by assumption)

/-- Takes the next node from the stack and puts its children in front. The fuel bounds the nodes
that are taken.
-/
def preorderFrom : Nat → List Visit → List Visit
  | 0, _ => []
  | _, [] => []
  | fuel + 1, next :: stack =>
      next :: preorderFrom fuel
        ((children next.node).map (fun child => { node := child, parent := some next.node }) ++
          stack)

mutual

/-- The number of values that a JSON value holds, itself included. -/
def Json.count : Json → Nat
  | .arr items => 1 + Json.countItems items
  | .obj fields => 1 + Json.countFields fields
  | _ => 1

/-- The number of values in the items of an array. -/
def Json.countItems : List Json → Nat
  | [] => 0
  | item :: rest => item.count + Json.countItems rest

/-- The number of values in the properties of an object. -/
def Json.countFields : List (String × Json) → Nat
  | [] => 0
  | (_, value) :: rest => value.count + Json.countFields rest

end

/-- All nodes of a tree with their parents, each before its children. No node is taken twice, so
the values of the tree bound the nodes taken.
-/
def preorder (tree : Json) : List Visit :=
  if isNode tree then preorderFrom tree.count [{ node := tree, parent := none }] else []

/-- The nodes of a kind, in the order of the walk. -/
def allOfKind (tree : Json) (kind : String) : List Json :=
  (visits (.ofKind kind) none tree).map (·.node)

/-- The first node of a kind. -/
def firstOfKind (tree : Json) (kind : String) : Option Json :=
  ((preorder tree).find? fun visit => kindOf visit.node = some kind).map (·.node)

end SolidityAtlas
