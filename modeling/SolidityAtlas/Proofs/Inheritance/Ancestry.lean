import SolidityAtlas.Resolution.Inheritance
import SolidityAtlas.Proofs.KeyedList

/-! Ancestry between contract names, said without any search: a step leads from a name to a base in
the declaration that counts for it, and ancestors are counted by steps. The graph of a workspace has
the same steps upwards, and its inheritors are the same steps seen from above.
-/

namespace SolidityAtlas

/-- The declaration that counts for a contract name: the last one in the workspace. -/
def Workspace.winning? (workspace : Workspace) (name : String) : Option ContractDecl :=
  workspace.contracts.reverse.find? fun contract => contract.name = name

/-- The bases in the declaration that counts for a name; a name without a contract has none. -/
def Workspace.basesOf (workspace : Workspace) (name : String) : List String :=
  ((workspace.winning? name).map (·.bases)).getD []

/-- `Ancestor bases steps name ancestor`: that many steps, each from a name to one of its bases,
lead from `name` to `ancestor`.
-/
inductive Ancestor (bases : String → List String) : Nat → String → String → Prop
  | self (name : String) : Ancestor bases 0 name name
  | above {steps name base ancestor} (linked : base ∈ bases name)
    (rest : Ancestor bases steps base ancestor)
    : Ancestor bases (steps + 1) name ancestor

/-- Ancestry along names none of which is in `path`, both ends included. -/
inductive AncestorAvoiding (bases : String → List String) (path : List String)
    : Nat → String → String → Prop
  | self {name} (fresh : name ∉ path) : AncestorAvoiding bases path 0 name name
  | above {steps name base ancestor} (fresh : name ∉ path) (linked : base ∈ bases name)
    (rest : AncestorAvoiding bases path steps base ancestor)
    : AncestorAvoiding bases path (steps + 1) name ancestor

variable {bases : String → List String} {path : List String} {steps : Nat}
  {name ancestor base : String}

/-- Ancestry that goes on by one base is ancestry by one more step, by induction on the steps. -/
theorem Ancestor.snoc (found : Ancestor bases steps name ancestor) (linked : base ∈ bases ancestor)
    : Ancestor bases (steps + 1) name base := by
  induction found with
  | self => exact .above linked (.self base)
  | above first _ ih => exact .above first (ih linked)

/-- Ancestry by at least one step ends with a step to a base, by induction on the steps. -/
theorem Ancestor.last (found : Ancestor bases (steps + 1) name ancestor)
    : ∃ child, Ancestor bases steps name child ∧ ancestor ∈ bases child := by
  induction steps generalizing name with
  | zero =>
      cases found with
      | above linked rest =>
          cases rest
          exact ⟨name, .self name, linked⟩
  | succ steps ih =>
      cases found with
      | above linked rest =>
          obtain ⟨child, earlier, final⟩ := ih rest
          exact ⟨child, .above linked earlier, final⟩

/-- Every ancestry avoids the empty path. -/
theorem Ancestor.avoiding_nil (found : Ancestor bases steps name ancestor)
    : AncestorAvoiding bases [] steps name ancestor := by
  induction found with
  | self => exact .self List.not_mem_nil
  | above linked _ ih => exact .above List.not_mem_nil linked ih

/-- Ancestry along fresh names starts at a fresh one. -/
theorem AncestorAvoiding.fresh (found : AncestorAvoiding bases path steps name ancestor)
    : name ∉ path := by
  cases found with
  | self fresh => exact fresh
  | above fresh _ _ => exact fresh

/-- Ancestry either avoids one more name, or ends at it, or goes on from a base of its last
occurrence in fewer steps. Induction on the steps; the last occurrence is met first from the end.
-/
theorem AncestorAvoiding.leave (found : AncestorAvoiding bases path steps name ancestor)
    (passed : String)
    : AncestorAvoiding bases (passed :: path) steps name ancestor
      ∨ ancestor = passed
      ∨ ∃ base ∈ bases passed, ∃ fewer < steps,
          AncestorAvoiding bases (passed :: path) fewer base ancestor := by
  induction found with
  | @self name fresh =>
      by_cases here : name = passed
      · exact .inr (.inl here)
      · exact .inl (.self (by simp [here, fresh]))
  | @above steps name next ancestor fresh linked rest ih =>
      rcases ih with avoiding | same | ⟨base, member, fewer, less, avoiding⟩
      · by_cases here : name = passed
        · exact .inr (.inr ⟨next, here ▸ linked, steps, Nat.lt_succ_self steps, avoiding⟩)
        · exact .inl (.above (by simp [here, fresh]) linked avoiding)
      · exact .inr (.inl same)
      · exact .inr (.inr ⟨base, member, fewer, Nat.lt_succ_of_lt less, avoiding⟩)

/-- An ancestor other than the name itself is reached from one of its bases without coming back to
the name, and in fewer steps.
-/
theorem AncestorAvoiding.climb (found : AncestorAvoiding bases path steps name ancestor)
    : ancestor = name
      ∨ ∃ base ∈ bases name, ∃ fewer < steps,
          AncestorAvoiding bases (name :: path) fewer base ancestor := by
  rcases found.leave name with avoiding | later
  · exact absurd List.mem_cons_self avoiding.fresh
  · exact later

-----------------------------------------------------------------------------------------
-- The graph of a workspace
-----------------------------------------------------------------------------------------

namespace InheritanceGraph

variable {settings : Settings} {workspace : Workspace} {graph : InheritanceGraph}

/-- The graph of a workspace can be built where the depth limit is known. It holds all contracts of
the workspace, and the limit where there are any.
-/
theorem ofWorkspace_spec (workspace : Workspace) {depth : Bound}
    (known : settings.maxChainDepth = .ok depth)
    : ∃ graph,
        ofWorkspace settings workspace = .ok graph
        ∧ graph.contracts = .ofList workspace.contracts
        ∧ (workspace.contracts ≠ [] → graph.maxDepth = depth) := by
  unfold ofWorkspace
  split
  · rename_i none
    exact ⟨.empty, rfl, by rw [none]; rfl, fun some => absurd none some⟩
  · exact ⟨_, by rw [known]; rfl, rfl, fun _ => rfl⟩

/-- The graph has the declarations that count. -/
theorem contract?_eq_winning? (contracts : graph.contracts = .ofList workspace.contracts)
    : graph.contract? = workspace.winning? := by
  funext name
  rw [contract?, contracts, KeyedList.get?_ofList, Workspace.winning?]

/-- The graph goes up by the declarations that count. -/
theorem bases_eq_basesOf (contracts : graph.contracts = .ofList workspace.contracts)
    : graph.bases = workspace.basesOf := by
  funext name
  rw [InheritanceGraph.bases, contract?_eq_winning? contracts, Workspace.basesOf]
  cases workspace.winning? name <;> rfl

/-- The names in the graph are the names of the contracts of the workspace. -/
theorem mem_keys_iff (contracts : graph.contracts = .ofList workspace.contracts)
    : name ∈ graph.contracts.keys ↔ ∃ contract ∈ workspace.contracts, contract.name = name := by
  rw [contracts, KeyedList.mem_keys_ofList, List.mem_map]

/-- Only names of contracts have bases. -/
theorem mem_keys_of_mem_bases (linked : base ∈ graph.bases name)
    : name ∈ graph.contracts.keys := by
  rw [InheritanceGraph.bases] at linked
  split at linked
  · rename_i contract found
    obtain ⟨member, rfl⟩ := KeyedList.get?_eq_some_iff.mp found
    exact List.mem_map_of_mem member
  · cases linked

/-- The inheritors of a name are the names that have it as a base. -/
theorem mem_inheritors_iff : name ∈ graph.inheritors base ↔ base ∈ graph.bases name := by
  rw [inheritors, List.mem_map, InheritanceGraph.bases]
  constructor
  · rintro ⟨contract, member, rfl⟩
    obtain ⟨known, linked⟩ := List.mem_filter.mp member
    have found : graph.contract? contract.name = some contract :=
      KeyedList.get?_eq_some_iff.mpr ⟨known, rfl⟩
    rw [found]
    exact List.contains_iff_mem.mp linked
  · intro linked
    split at linked
    · rename_i contract found
      obtain ⟨known, named⟩ := KeyedList.get?_eq_some_iff.mp found
      exact ⟨contract, List.mem_filter.mpr ⟨known, List.contains_iff_mem.mpr linked⟩, named⟩
    · cases linked

end InheritanceGraph

end SolidityAtlas
