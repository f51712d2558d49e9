import SolidityAtlas.Proofs.Inheritance.Derived
import SolidityAtlas.Proofs.Workspace.FileOrder

/-! The order of files as inheritance sees it. Where no contract name is declared in two files, the
declaration that counts for a name is the same in every order of the files. Chains go up by these
declarations only, so they stay as they are; what inherits from a name is found in the order of the
contracts, so only the order of what is found may change.
-/

namespace SolidityAtlas

namespace InheritanceGraph

/-- Two graphs have the same chains, and the same inheritors and implementations up to their
order.
-/
structure AgreesWith (first second : InheritanceGraph) : Prop where
  chain : ∀ name, first.chain name = second.chain name
  derived : ∀ base, (first.derived base).Perm (second.derived base)
  implementations
    : ∀ base method, (first.implementations base method).Perm (second.implementations base method)

variable {first second : InheritanceGraph} {name : String}

-----------------------------------------------------------------------------------------
-- Graphs of the same declarations
-----------------------------------------------------------------------------------------

/-- A name is that of a contract when a declaration counts for it. -/
theorem mem_keys_iff_isSome : name ∈ first.contracts.keys ↔ (first.contract? name).isSome := by
  rw [contract?, ← KeyedList.contains_eq_isSome, KeyedList.contains_iff]

/-- Graphs of the same declarations have the same names of contracts, up to their order. -/
theorem keys_perm (same : first.contract? = second.contract?)
    : first.contracts.keys.Perm second.contracts.keys := by
  refine (List.perm_ext_iff_of_nodup first.contracts.nodup second.contracts.nodup).mpr ?_
  intro name
  exact mem_keys_iff_isSome.trans ((congrFun same name) ▸ mem_keys_iff_isSome.symm)

/-- The same declarations have the same bases. -/
theorem bases_congr (same : first.contract? = second.contract?) : first.bases = second.bases := by
  funext name
  rw [bases, bases, same]

/-- The search up depends on bases and the depth limit only, by induction on the fuel. -/
theorem chainFrom_congr (same : first.contract? = second.contract?)
    (bound : first.maxDepth = second.maxDepth) (fuel : Nat) (path : List String) (depth : Nat)
    (name : String)
    : first.chainFrom fuel path depth name = second.chainFrom fuel path depth name := by
  induction fuel generalizing path depth name with
  | zero => rfl
  | succ fuel ih => simp only [chainFrom, bound, bases_congr same, ih]

/-- Graphs of the same declarations and depth limit have the same chains. -/
theorem chain_congr (same : first.contract? = second.contract?)
    (bound : first.maxDepth = second.maxDepth)
    : first.chain = second.chain := by
  funext name
  have known : first.contracts.contains name = second.contracts.contains name := by
    rw [KeyedList.contains_eq_isSome, KeyedList.contains_eq_isSome]
    exact congrArg Option.isSome (congrFun same name)
  have length : first.contracts.items.length = second.contracts.items.length := by
    simpa [KeyedList.keys] using (keys_perm same).length_eq
  rw [chain, chain, known, length, chainFrom_congr same bound]

/-- Graphs of the same declarations agree on what inherits from a name, up to the order. -/
theorem derived_perm (same : first.contract? = second.contract?) (base : String)
    : (first.derived base).Perm (second.derived base) := by
  have distinct (graph : InheritanceGraph) : (graph.derived base).Nodup :=
    derivedRun_derived.nodup List.nodup_nil
  refine (List.perm_ext_iff_of_nodup (distinct first) (distinct second)).mpr ?_
  intro name
  rw [mem_derived_iff, mem_derived_iff, bases_congr same]

/-- Graphs of the same declarations and depth limit find the same implementation in a contract. -/
theorem implementationIn_congr (same : first.contract? = second.contract?)
    (bound : first.maxDepth = second.maxDepth) (implementer method : String)
    : first.implementationIn implementer method = second.implementationIn implementer method := by
  simp only [implementationIn, concrete?, same, chain_congr same bound]

/-- Graphs of the same declarations and depth limit agree. -/
theorem agreesWith_of_contract? (same : first.contract? = second.contract?)
    (bound : first.maxDepth = second.maxDepth)
    : first.AgreesWith second where
  chain := congrFun (chain_congr same bound)
  derived := derived_perm same
  implementations := by
    intro base method
    simp only [implementations, concrete?, same, implementationIn_congr same bound]
    exact (derived_perm same base).filterMap _

end InheritanceGraph

-----------------------------------------------------------------------------------------
-- Graphs of files in another order
-----------------------------------------------------------------------------------------

namespace Workspace

variable {first second : Workspace} {name : String}

/-- The contracts of a name, in which the last one counts, are the same in every order of the
files.
-/
theorem contracts_filter_of_perm (perm : first.files.items.Perm second.files.items)
    (apart : FilesApart first.files.items)
    : first.contracts.filter (fun contract => contract.name = name)
      = second.contracts.filter fun contract => contract.name = name := by
  rw [contracts, contracts, List.filter_flatMap, List.filter_flatMap]
  refine apart.contracts.flatMap_eq first.nodup_files perm name ?_
  intro file some
  obtain ⟨contract, member⟩ := List.exists_mem_of_ne_nil _ some
  obtain ⟨declared, named⟩ := List.mem_filter.mp member
  exact List.mem_map.mpr ⟨contract, declared, by simpa using named⟩

/-- The declaration that counts for a name is the last contract of the name. -/
theorem winning?_eq_getLast? (workspace : Workspace) (name : String)
    : workspace.winning? name
      = (workspace.contracts.filter fun contract => contract.name = name).getLast? := by
  rw [winning?, ← List.head?_filter, List.filter_reverse, List.head?_reverse]

/-- The declaration that counts for a name is the same in every order of the files. -/
theorem winning?_of_perm (perm : first.files.items.Perm second.files.items)
    (apart : FilesApart first.files.items)
    : first.winning? = second.winning? := by
  funext name
  rw [winning?_eq_getLast?, winning?_eq_getLast?, contracts_filter_of_perm perm apart]

end Workspace

namespace InheritanceGraph

variable {workspace : Workspace} {settings : Settings}

/-- The graph of a workspace with contracts exists where the depth limit is known. -/
theorem ofWorkspace_of_ne_nil (some : workspace.contracts ≠ [])
    : ofWorkspace settings workspace
      = settings.maxChainDepth.map fun depth =>
          { contracts := .ofList workspace.contracts, maxDepth := depth } := by
  unfold ofWorkspace
  split
  · rename_i none
    exact absurd none some
  · rfl

/-- The graphs of files in another order cannot be built for the same reason, or they agree. -/
theorem ofWorkspace_of_perm {first second : Workspace}
    (perm : first.files.items.Perm second.files.items) (apart : FilesApart first.files.items)
    : (∃ failure,
        ofWorkspace settings first = .error failure ∧ ofWorkspace settings second = .error failure)
      ∨ ∃ graph other,
          ofWorkspace settings first = .ok graph
          ∧ ofWorkspace settings second = .ok other
          ∧ graph.AgreesWith other := by
  have contracts : first.contracts.Perm second.contracts := perm.flatMap_right _
  by_cases none : first.contracts = []
  · have alsoNone : second.contracts = [] := (none ▸ contracts).nil_eq.symm
    rw [ofWorkspace, ofWorkspace, none, alsoNone]
    exact .inr ⟨_, _, rfl, rfl, agreesWith_of_contract? rfl rfl⟩
  · have alsoSome : second.contracts ≠ [] := fun empty => none (empty ▸ contracts).eq_nil
    rw [ofWorkspace_of_ne_nil none, ofWorkspace_of_ne_nil alsoSome]
    cases settings.maxChainDepth with
    | error failure => exact .inl ⟨failure, rfl, rfl⟩
    | ok depth =>
        refine .inr ⟨_, _, rfl, rfl, agreesWith_of_contract? ?_ rfl⟩
        rw [contract?_eq_winning? rfl, contract?_eq_winning? rfl,
          Workspace.winning?_of_perm perm apart]

end InheritanceGraph

end SolidityAtlas
