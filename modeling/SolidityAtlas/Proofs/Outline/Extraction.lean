import SolidityAtlas.Outline.Extract
import SolidityAtlas.Proofs.KeyedList
import SolidityAtlas.Proofs.Outcome
import SolidityAtlas.Proofs.SyntaxTree.Descendants

/-! What an outline takes from a syntax tree. A function keeps the text, span and file of its node;
the functions of a contract, and the contracts and functions of a file, are those of the nodes of
their kind, in the order of the tree.
-/

namespace SolidityAtlas

open Outcome Checked

variable {source path : String} {contract node tree : Json}

/-- Whether a node defines a function. -/
def isFunctionNode (node : Json) : Bool :=
  kindOf node = some functionKind

/-- The kind of node that defines a contract. -/
def contractKind : String :=
  "ContractDefinition"

/-- Whether a node defines a contract. -/
def isContractNode (node : Json) : Bool :=
  kindOf node = some contractKind

/-- A node of another kind defines no function. -/
theorem isFunctionNode_of_kind {node : Json} {kind : String} (found : kindOf node = some kind)
    (different : kind ≠ functionKind)
    : isFunctionNode node = false :=
  decide_eq_false fun same => different (Option.some.inj (found.symm.trans same))

/-- A node of another kind defines no contract. -/
theorem isContractNode_of_kind {node : Json} {kind : String} (found : kindOf node = some kind)
    (different : kind ≠ contractKind)
    : isContractNode node = false :=
  decide_eq_false fun same => different (Option.some.inj (found.symm.trans same))

/-- A function node is a node. -/
theorem isNode_of_isFunctionNode {node : Json} (function : isFunctionNode node = true)
    : isNode node = true := by
  rw [isNode, of_decide_eq_true function, Option.isSome_some]

/-- A contract node is a node. -/
theorem isNode_of_isContractNode {node : Json} (contract : isContractNode node = true)
    : isNode node = true := by
  rw [isNode, of_decide_eq_true contract, Option.isSome_some]

/-- A string is no node. -/
theorem kindOf_str (text : String) : kindOf (.str text) = none := by
  simp [kindOf, Json.field, Json.field?, Json.string?]

/-- A property lists the items of its array; what other values list are strings. -/
theorem listed_cases {value : Json} {items : List Json} (done : listed value = .ok items)
    : items = itemsOf value ∨ itemsOf value = [] ∧ ∀ item ∈ items, ∃ text, item = .str text := by
  unfold listed at done
  split at done
  · rename_i nothing
    obtain rfl := Except.ok.inj done
    cases value with
    | arr values =>
        obtain rfl : values = [] := List.isEmpty_iff.mp nothing
        exact .inl rfl
    | null | bool _ | int _ | double _ | str _ | obj _ => exact .inl rfl
  · cases value with
    | arr values => exact .inl (Except.ok.inj done).symm
    | str text =>
        obtain rfl := Except.ok.inj done
        refine .inr ⟨rfl, ?_⟩
        intro item member
        obtain ⟨c, -, rfl⟩ := List.mem_map.mp member
        exact ⟨_, rfl⟩
    | obj fields =>
        obtain rfl := Except.ok.inj done
        refine .inr ⟨rfl, ?_⟩
        intro item member
        obtain ⟨field, -, rfl⟩ := List.mem_map.mp member
        exact ⟨_, rfl⟩
    | null | bool _ | int _ | double _ => cases done

/-- Nodes are only listed by arrays, as a string lists strings and an object its names. -/
theorem filter_listed {keeps : Json → Bool}
    (nodes : ∀ value, keeps value = true → isNode value = true)
    {value : Json} {items : List Json} (done : listed value = .ok items)
    : items.filter keeps = (itemsOf value).filter keeps := by
  rcases listed_cases done with rfl | ⟨none, strings⟩
  · rfl
  · rw [none, List.filter_nil, List.filter_eq_nil_iff]
    intro item member kept
    obtain ⟨text, rfl⟩ := strings item member
    have node := nodes _ kept
    simp [isNode, kindOf_str] at node

/-- A listed value that is no string is an item of an array. -/
theorem mem_itemsOf_of_listed {value item : Json} {items : List Json}
    (done : listed value = .ok items) (member : item ∈ items)
    (noString : ∀ text, item ≠ .str text)
    : item ∈ itemsOf value := by
  rcases listed_cases done with rfl | ⟨-, strings⟩
  · exact member
  · obtain ⟨text, same⟩ := strings item member
    exact absurd same (noString text)

/-- A property is read from an object. -/
theorem property_eq_ok_iff {value found : Json} {name : String}
    : property value name = .ok found ↔ value.isObject = true ∧ value.field name = found := by
  rw [property]
  cases value.isObject <;> simp

/-- A property is read from an object, and replaced where it counts as nothing. -/
theorem propertyOr_eq_ok_iff {value found : Json} {name replacement : String}
    : propertyOr value name replacement = .ok found
      ↔ value.isObject = true ∧ (value.field name).orElse (.str replacement) = found := by
  simp only [propertyOr, bind_eq_ok_iff, property_eq_ok_iff, pure_eq_ok_iff, and_assoc,
    exists_and_left, exists_eq_left']

-----------------------------------------------------------------------------------------
-- Functions and contracts
-----------------------------------------------------------------------------------------

/-- What a function takes from its node and its place: the name it is given, the text and the span
of the node, the file, and the contract it stands in.
-/
structure FunctionDecl.ExtractedFrom (source path : String) (contract node : Json)
    (function : FunctionDecl)
    : Prop where
  named : checkedField "name" Reader.string (functionName node) = .valid function.name
  read : excerpt source node = .ok function.source
  placed : declaredAt node = .ok function.location
  stored : function.path = path
  owned
    : checkedField "contract_name" (Reader.optional Reader.string) contract
      = .valid function.contract

/-- A function that is extracted stands for its node. -/
theorem extractFunction_spec {function : FunctionDecl}
    (done : extractFunction source path contract node = .ok function)
    : function.ExtractedFrom source path contract node := by
  simp only [extractFunction, bind_eq_ok_iff] at done
  obtain ⟨parameters, -, returns, -, names, -, modifiers, -, done⟩ := done
  -- the body is the only part that is not read in all nodes
  split at done
  all_goals
    simp only [bind_eq_ok_iff, outcome_eq_ok_iff, seq_eq_valid_iff, map_eq_valid_iff,
      pure_eq_valid_iff, ↓existsAndEq, and_true] at done
    obtain ⟨body, -, text, read, span, placed, fields⟩ := done
    obtain ⟨owner, modifiers, mutability, visibility, name, ⟨⟨⟨named, -⟩, -⟩, -⟩, owned, rfl⟩ :=
      fields
    exact ⟨named, read, placed, rfl, owned⟩

/-- Adding a part to a contract adds the function of a function node, and leaves the functions alone
for every other node.
-/
theorem addContractPart_functions {parts next : ContractParts}
    (done : addContractPart source path contract parts node = .ok next)
    : (∃ function,
        isFunctionNode node = true
        ∧ extractFunction source path contract node = .ok function
        ∧ next.functions = parts.functions ++ [function])
      ∨ isFunctionNode node = false ∧ next.functions = parts.functions := by
  unfold addContractPart at done
  split at done
  all_goals simp only [bind_eq_ok_iff, pure_eq_ok_iff] at done
  · rename_i kind
    obtain ⟨function, extracted, rfl⟩ := done
    exact .inl ⟨function, decide_eq_true kind, extracted, rfl⟩
  · rename_i kind
    obtain ⟨struct, -, rfl⟩ := done
    exact .inr ⟨isFunctionNode_of_kind kind (by decide), rfl⟩
  · rename_i kind
    obtain ⟨enum, -, rfl⟩ := done
    exact .inr ⟨isFunctionNode_of_kind kind (by decide), rfl⟩
  · rename_i kind
    obtain ⟨declared, -, rfl⟩ := done
    exact .inr ⟨isFunctionNode_of_kind kind (by decide), rfl⟩
  · rename_i other _ _ _
    exact .inr ⟨decide_eq_false fun kind => other kind, by rw [done]⟩

/-- What a contract takes from its node: the functions of its function nodes, in order. -/
structure ContractDecl.ExtractedFrom (source path : String) (node : Json) (declared : ContractDecl)
    : Prop where
  named
    : checkedField "name" Reader.string ((node.field "name").orElse (.str ""))
      = .valid declared.name
  functions
    : List.Forall₂
        (fun part function =>
          extractFunction source path ((node.field "name").orElse (.str "")) part = .ok function)
        ((itemsOf (node.field "subNodes")).filter isFunctionNode)
        declared.functions
  stored : declared.path = path

/-- A contract that is extracted stands for its node. -/
theorem extractContract_spec {declared : ContractDecl}
    (done : extractContract source path node = .ok declared)
    : declared.ExtractedFrom source path node := by
  simp only [extractContract, bind_eq_ok_iff, outcome_eq_ok_iff, seq_eq_valid_iff,
    map_eq_valid_iff, pure_eq_valid_iff, ↓existsAndEq, and_true] at done
  obtain ⟨subNodes, found, parts, collected, specifiers, -, bases, -, span, -, fields⟩ := done
  obtain ⟨bases, name, ⟨named, -⟩, -, rfl⟩ := fields
  obtain ⟨functions, extracted, seen⟩ := foldlM_collects (fun parts => parts.functions)
    isFunctionNode _ (fun _ _ _ => addContractPart_functions) collected
  refine ⟨named, ?_, rfl⟩
  rw [← filter_listed (fun _ => isNode_of_isFunctionNode) found, seen]
  exact extracted

-----------------------------------------------------------------------------------------
-- Files
-----------------------------------------------------------------------------------------

/-- Adding a top-level node to a file keeps the file's path. A contract node adds its contract, a
function node its function, and every other node leaves both lists alone.
-/
theorem addTopLevel_spec {file next : FileOutline}
    (done : addTopLevel source path file node = .ok next)
    : next.path = file.path
      ∧ ((∃ declared,
            isContractNode node = true
            ∧ extractContract source path node = .ok declared
            ∧ next.contracts = file.contracts ++ [declared])
          ∨ isContractNode node = false ∧ next.contracts = file.contracts)
      ∧ ((∃ function,
            isFunctionNode node = true
            ∧ extractFunction source path .null node = .ok function
            ∧ next.functions = file.functions ++ [function])
          ∨ isFunctionNode node = false ∧ next.functions = file.functions) := by
  unfold addTopLevel at done
  split at done
  all_goals simp only [bind_eq_ok_iff, pure_eq_ok_iff] at done
  · rename_i kind
    obtain ⟨declared, extracted, rfl⟩ := done
    exact ⟨rfl, .inl ⟨declared, decide_eq_true kind, extracted, rfl⟩,
      .inr ⟨isFunctionNode_of_kind kind (by decide), rfl⟩⟩
  · rename_i kind
    obtain ⟨directive, -, rfl⟩ := done
    exact ⟨rfl, .inr ⟨isContractNode_of_kind kind (by decide), rfl⟩,
      .inr ⟨isFunctionNode_of_kind kind (by decide), rfl⟩⟩
  · rename_i kind
    obtain rfl := done
    exact ⟨rfl, .inr ⟨isContractNode_of_kind kind (by decide), rfl⟩,
      .inr ⟨isFunctionNode_of_kind kind (by decide), rfl⟩⟩
  · rename_i kind
    obtain ⟨struct, -, rfl⟩ := done
    exact ⟨rfl, .inr ⟨isContractNode_of_kind kind (by decide), rfl⟩,
      .inr ⟨isFunctionNode_of_kind kind (by decide), rfl⟩⟩
  · rename_i kind
    obtain ⟨enum, -, rfl⟩ := done
    exact ⟨rfl, .inr ⟨isContractNode_of_kind kind (by decide), rfl⟩,
      .inr ⟨isFunctionNode_of_kind kind (by decide), rfl⟩⟩
  · rename_i kind
    obtain ⟨function, extracted, rfl⟩ := done
    exact ⟨rfl, .inr ⟨isContractNode_of_kind kind (by decide), rfl⟩,
      .inl ⟨function, decide_eq_true kind, extracted, rfl⟩⟩
  · rename_i noContract _ _ _ _ noFunction
    obtain rfl := done
    exact ⟨rfl, .inr ⟨decide_eq_false fun kind => noContract kind, rfl⟩,
      .inr ⟨decide_eq_false fun kind => noFunction kind, rfl⟩⟩

/-- What a file takes from its tree: the contracts and the functions of the top-level nodes of
their kind, in order.
-/
structure FileOutline.ExtractedFrom (source path : String) (tree : Json) (file : FileOutline)
    : Prop where
  stored : file.path = path
  contracts
    : List.Forall₂
        (fun child declared => extractContract source path child = .ok declared)
        ((itemsOf (tree.field "children")).filter isContractNode)
        file.contracts
  functions
    : List.Forall₂
        (fun child function => extractFunction source path .null child = .ok function)
        ((itemsOf (tree.field "children")).filter isFunctionNode)
        file.functions

/-- An outline stands for its tree. -/
theorem outlineOf_spec {file : FileOutline} (done : outlineOf tree source path = .ok file)
    : kindOf tree = some "SourceUnit" ∧ file.ExtractedFrom source path tree := by
  unfold outlineOf at done
  split at done
  · rename_i kind
    simp only [extractOutline, bind_eq_ok_iff] at done
    obtain ⟨children, found, collected⟩ := done
    have stored : file.path = path := foldlM_preserves (fun file => file.path = path)
      (fun _ _ _ _ stepped same => (addTopLevel_spec stepped).1.trans same) collected rfl
    obtain ⟨contracts, contractParts, contractsSeen⟩ :=
      foldlM_collects (fun file => file.contracts) isContractNode _
        (fun _ _ _ stepped => (addTopLevel_spec stepped).2.1) collected
    obtain ⟨functions, functionParts, functionsSeen⟩ :=
      foldlM_collects (fun file => file.functions) isFunctionNode _
        (fun _ _ _ stepped => (addTopLevel_spec stepped).2.2) collected
    refine ⟨kind, stored, ?_, ?_⟩
    · rw [← filter_listed (fun _ => isNode_of_isContractNode) found, contractsSeen]
      exact contractParts
    · rw [← filter_listed (fun _ => isNode_of_isFunctionNode) found, functionsSeen]
      exact functionParts
  · cases done

-----------------------------------------------------------------------------------------
-- All functions of a file
-----------------------------------------------------------------------------------------

/-- A function node where an outline looks for them: at the top level of the tree or among the parts
of a contract that is there.
-/
def ListedFunction (tree node : Json) : Prop :=
  isFunctionNode node = true
  ∧ (node ∈ itemsOf (tree.field "children")
    ∨ ∃ contract ∈ itemsOf (tree.field "children"),
        isContractNode contract = true ∧ node ∈ itemsOf (contract.field "subNodes"))

/-- Listed function nodes are within the tree of a file. -/
theorem ListedFunction.within (root : kindOf tree = some "SourceUnit")
    (listed : ListedFunction tree node)
    : Within tree node := by
  have isChild {child : Json} (member : child ∈ itemsOf (tree.field "children"))
      (isNode : isNode child = true)
      : child ∈ children tree :=
    mem_children_of_item root (by decide) rfl List.mem_cons_self member isNode
  obtain ⟨function, top | ⟨contract, top, isContract, part⟩⟩ := listed
  · exact .under (isChild top (isNode_of_isFunctionNode function)) (.self node)
  · refine .under (isChild top (isNode_of_isContractNode isContract)) (.under ?_ (.self node))
    exact mem_children_of_item (of_decide_eq_true isContract) (by decide) rfl (by decide) part
      (isNode_of_isFunctionNode function)

/-- Every function of an outline was extracted from a listed node. -/
theorem FileOutline.ExtractedFrom.listed_of_mem {file : FileOutline} {function : FunctionDecl}
    (extracted : file.ExtractedFrom source path tree) (member : function ∈ file.allFunctions)
    : ∃ owner node,
        ListedFunction tree node ∧ extractFunction source path owner node = .ok function := by
  rcases List.mem_append.mp member with owned | free
  · obtain ⟨declared, known, inside⟩ := List.mem_flatMap.mp owned
    obtain ⟨contract, top, contractDone⟩ := forall₂_mem_right extracted.contracts declared known
    obtain ⟨topMember, isContract⟩ := List.mem_filter.mp top
    obtain ⟨node, part, done⟩ :=
      forall₂_mem_right (extractContract_spec contractDone).functions function inside
    obtain ⟨partMember, isFunction⟩ := List.mem_filter.mp part
    exact ⟨_, node, ⟨isFunction, .inr ⟨contract, topMember, isContract, partMember⟩⟩, done⟩
  · obtain ⟨node, top, done⟩ := forall₂_mem_right extracted.functions function free
    obtain ⟨topMember, isFunction⟩ := List.mem_filter.mp top
    exact ⟨_, node, ⟨isFunction, .inl topMember⟩, done⟩

/-- A function was extracted from every listed node. -/
theorem FileOutline.ExtractedFrom.mem_of_listed {file : FileOutline}
    (extracted : file.ExtractedFrom source path tree) (listed : ListedFunction tree node)
    : ∃ function ∈ file.allFunctions, ∃ owner,
        extractFunction source path owner node = .ok function := by
  obtain ⟨isFunction, top | ⟨contract, top, isContract, part⟩⟩ := listed
  · obtain ⟨function, member, done⟩ :=
      forall₂_mem_right extracted.functions.flip node (List.mem_filter.mpr ⟨top, isFunction⟩)
    exact ⟨function, List.mem_append_right _ member, _, done⟩
  · obtain ⟨declared, known, contractDone⟩ :=
      forall₂_mem_right extracted.contracts.flip contract (List.mem_filter.mpr ⟨top, isContract⟩)
    obtain ⟨function, member, done⟩ :=
      forall₂_mem_right (extractContract_spec contractDone).functions.flip node
        (List.mem_filter.mpr ⟨part, isFunction⟩)
    exact ⟨function, List.mem_append_left _ (List.mem_flatMap.mpr ⟨declared, known, member⟩), _,
      done⟩

end SolidityAtlas
