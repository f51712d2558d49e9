import SolidityAtlas.Proofs.Inheritance.Ancestry
import Mathlib.Data.List.Nodup

/-! Chains of a workspace are its bounded ancestries. The search up is told again without fuel, as
the runs it makes; the fuel of the executable search is enough for every run, and what a run finds
is read off by induction on the run.
-/

namespace SolidityAtlas

namespace InheritanceGraph

-----------------------------------------------------------------------------------------
-- Names added without repetition
-----------------------------------------------------------------------------------------

section AppendNew

variable {names more : List String} {name : String}

/-- Adding names keeps those that were there, in front. -/
theorem prefix_appendNew : names <+: appendNew names more := by
  induction more generalizing names with
  | nil => exact List.prefix_rfl
  | cons next rest ih =>
      rw [appendNew, List.foldl_cons]
      split
      · exact ih
      · exact (List.prefix_append names [next]).trans ih

/-- The names after adding are the old and the added ones. -/
theorem mem_appendNew : name ∈ appendNew names more ↔ name ∈ names ∨ name ∈ more := by
  induction more generalizing names with
  | nil => simp [appendNew]
  | cons next rest ih =>
      rw [appendNew, List.foldl_cons, List.mem_cons]
      by_cases known : next ∈ names
      · rw [if_pos (List.contains_iff_mem.mpr known), ← appendNew, ih]
        constructor
        · rintro (old | new)
          · exact .inl old
          · exact .inr (.inr new)
        · rintro (old | rfl | new)
          · exact .inl old
          · exact .inl known
          · exact .inr new
      · rw [if_neg (by simpa using known), ← appendNew, ih, List.mem_append, List.mem_singleton,
          or_assoc]

/-- Adding names repeats none. -/
theorem nodup_appendNew (distinct : names.Nodup) : (appendNew names more).Nodup := by
  induction more generalizing names with
  | nil => exact distinct
  | cons next rest ih =>
      rw [appendNew, List.foldl_cons]
      split
      · exact ih distinct
      · rename_i new
        have fresh : next ∉ names := by simpa using new
        exact ih (by simpa using List.Nodup.concat fresh distinct)

end AppendNew

-----------------------------------------------------------------------------------------
-- Runs of the search up
-----------------------------------------------------------------------------------------

/-- `ChainRun graph path depth bases chain result`: the search up, at a depth below the names in
`path`, adds the chains of `bases` one after another to `chain` and ends with `result`. A run is a
finite derivation, so a search that has one comes to an end.
-/
inductive ChainRun (graph : InheritanceGraph)
    : List String → Nat → List String → List String → List String → Prop
  | done {path} {depth : Nat} {chain} : ChainRun graph path depth [] chain chain
  | visited {path} {depth : Nat} {base bases chain result} (known : base ∈ path)
    (rest : ChainRun graph path depth bases chain result)
    : ChainRun graph path depth (base :: bases) chain result
  | tooDeep {path} {depth : Nat} {base bases chain result} (fresh : base ∉ path)
    (deep : graph.maxDepth.isExceededBy depth = true)
    (rest : ChainRun graph path depth bases chain result)
    : ChainRun graph path depth (base :: bases) chain result
  | climb {path} {depth : Nat} {base bases chain above result} (fresh : base ∉ path)
    (near : graph.maxDepth.isExceededBy depth = false)
    (sub : ChainRun graph (base :: path) (depth + 1) (graph.bases base) [base] above)
    (rest : ChainRun graph path depth bases (appendNew chain above) result)
    : ChainRun graph path depth (base :: bases) chain result

variable {graph : InheritanceGraph} {path bases chain result : List String} {depth limit : Nat}
  {name : String}

/-- The search with fuel makes a run when the fuel and the path together exceed the contracts. By
induction on the fuel: a base that is a contract lengthens the path, and any other has no bases.
-/
theorem chainRun_of_fuel (fuel : Nat) (path : List String) (depth : Nat) (distinct : path.Nodup)
    (known : path ⊆ graph.contracts.keys)
    (budget : graph.contracts.keys.length < fuel + path.length)
    (bases chain : List String)
    : ChainRun graph path depth bases chain
        (bases.foldl (fun chain base => appendNew chain (chainFrom graph fuel path depth base))
          chain) := by
  induction fuel generalizing path depth bases chain with
  | zero =>
      have fits : path.length ≤ graph.contracts.keys.length := distinct.length_le_of_subset known
      omega
  | succ fuel ih =>
      induction bases generalizing chain with
      | nil => exact .done
      | cons base rest restRun =>
          rw [List.foldl_cons]
          by_cases visited : base ∈ path
          · have nothing : chainFrom graph (fuel + 1) path depth base = [] := by
              simp [chainFrom, visited]
            rw [nothing]
            exact .visited visited (restRun chain)
          · cases deep : graph.maxDepth.isExceededBy depth with
            | true =>
                have nothing : chainFrom graph (fuel + 1) path depth base = [] := by
                  simp [chainFrom, deep]
                rw [nothing]
                exact .tooDeep visited deep (restRun chain)
            | false =>
                refine .climb visited deep ?_ (restRun _)
                rw [chainFrom, if_neg (by simpa using visited), if_neg (by simp [deep])]
                by_cases contract : base ∈ graph.contracts.keys
                · refine ih (base :: path) (depth + 1) ?_ ?_ ?_ _ _
                  · exact List.nodup_cons.mpr ⟨visited, distinct⟩
                  · exact List.cons_subset.mpr ⟨contract, known⟩
                  · rw [List.length_cons]
                    omega
                · have none : graph.bases base = [] :=
                    List.eq_nil_iff_forall_not_mem.mpr fun above linked =>
                      contract (mem_keys_of_mem_bases linked)
                  rw [none]
                  exact .done

/-- The chain of a contract is a run from the contract through its bases. -/
theorem chainRun_chain (contract : name ∈ graph.contracts.keys)
    (near : graph.maxDepth.isExceededBy 0 = false)
    : ChainRun graph [name] 1 (graph.bases name) [name] (graph.chain name) := by
  rw [InheritanceGraph.chain, if_pos (KeyedList.contains_iff.mpr contract), chainFrom,
    if_neg (by simp), if_neg (by simp [near])]
  refine chainRun_of_fuel _ [name] 1 (List.nodup_singleton name) (by simpa using contract) ?_ _ _
  simp [KeyedList.keys]

/-- A run keeps what the chain starts with. -/
theorem ChainRun.isPrefix (run : ChainRun graph path depth bases chain result)
    : chain <+: result := by
  induction run with
  | done => exact List.prefix_rfl
  | visited _ _ ih => exact ih
  | tooDeep _ _ _ ih => exact ih
  | climb _ _ _ _ _ ih => exact prefix_appendNew.trans ih

/-- A run repeats no name. -/
theorem ChainRun.nodup (run : ChainRun graph path depth bases chain result)
    (distinct : chain.Nodup)
    : result.Nodup := by
  induction run with
  | done => exact distinct
  | visited _ _ ih => exact ih distinct
  | tooDeep _ _ _ ih => exact ih distinct
  | climb _ _ _ _ _ ih => exact ih (nodup_appendNew distinct)

/-- A run adds only ancestors of the bases, and none beyond the limit. Induction on the run: a name
that a climb finds is the base itself or an ancestor of it by what the run above it found.
-/
theorem ChainRun.sound (bounded : graph.maxDepth = .int limit)
    (run : ChainRun graph path depth bases chain result) (found : name ∈ result)
    : name ∈ chain
      ∨ ∃ base ∈ bases, ∃ steps,
          depth + steps ≤ limit ∧ Ancestor graph.bases steps base name := by
  induction run with
  | done => exact .inl found
  | visited _ _ ih =>
      rcases ih found with old | ⟨base, member, reached⟩
      · exact .inl old
      · exact .inr ⟨base, List.mem_cons_of_mem _ member, reached⟩
  | tooDeep _ _ _ ih =>
      rcases ih found with old | ⟨base, member, reached⟩
      · exact .inl old
      · exact .inr ⟨base, List.mem_cons_of_mem _ member, reached⟩
  | @climb path depth base bases chain above result _ near _ _ subFound restFound =>
      rcases restFound found with merged | ⟨other, member, reached⟩
      · rcases mem_appendNew.mp merged with old | new
        · exact .inl old
        · refine .inr ⟨base, List.mem_cons_self, ?_⟩
          rcases subFound new with same | ⟨next, linked, steps, within, reached⟩
          · obtain rfl := List.mem_singleton.mp same
            have reachable : depth ≤ limit := by
              simpa [bounded, Bound.isExceededBy] using near
            exact ⟨0, by omega, .self _⟩
          · exact ⟨steps + 1, by omega, .above linked reached⟩
      · exact .inr ⟨other, List.mem_cons_of_mem _ member, reached⟩

/-- A run adds every ancestor of the bases that is within the limit and is reached without coming
back to the path. Induction on the run: a climb is left by fewer steps that avoid its base as well.
-/
theorem ChainRun.complete (bounded : graph.maxDepth = .int limit)
    (run : ChainRun graph path depth bases chain result)
    {base : String} {steps : Nat} (member : base ∈ bases) (within : depth + steps ≤ limit)
    (reached : AncestorAvoiding graph.bases path steps base name)
    : name ∈ result := by
  induction run generalizing base steps with
  | done => cases member
  | visited known _ ih =>
      rcases List.mem_cons.mp member with rfl | later
      · exact absurd known reached.fresh
      · exact ih later within reached
  | @tooDeep _ depth _ _ _ _ _ deep _ ih =>
      rcases List.mem_cons.mp member with rfl | later
      · have beyond : limit < depth := by simpa [bounded, Bound.isExceededBy] using deep
        omega
      · exact ih later within reached
  | climb _ _ sub rest subFound restFound =>
      rcases List.mem_cons.mp member with rfl | later
      · refine rest.isPrefix.subset (mem_appendNew.mpr (.inr ?_))
        rcases reached.climb with rfl | ⟨next, linked, fewer, less, avoiding⟩
        · exact sub.isPrefix.subset List.mem_cons_self
        · exact subFound linked (by omega) avoiding
      · exact restFound later within reached

/-- A run through all bases of a name finds the ancestors of the name within the limit. -/
theorem ChainRun.mem_iff (bounded : graph.maxDepth = .int limit) {start : String}
    (run : ChainRun graph [start] 1 (graph.bases start) [start] result)
    : name ∈ result ↔ ∃ steps ≤ limit, Ancestor graph.bases steps start name := by
  constructor
  · intro found
    rcases run.sound bounded found with same | ⟨base, linked, steps, within, reached⟩
    · obtain rfl := List.mem_singleton.mp same
      exact ⟨0, Nat.zero_le limit, .self _⟩
    · exact ⟨steps + 1, by omega, .above linked reached⟩
  · rintro ⟨steps, within, reached⟩
    rcases reached.avoiding_nil.climb with rfl | ⟨base, linked, fewer, less, avoiding⟩
    · exact run.isPrefix.subset List.mem_cons_self
    · exact run.complete bounded linked (by omega) avoiding

/-- The chain of a contract holds its ancestors within the limit. -/
theorem mem_chain_iff (bounded : graph.maxDepth = .int limit)
    (contract : name ∈ graph.contracts.keys) {ancestor : String}
    : ancestor ∈ graph.chain name
      ↔ ∃ steps ≤ limit, Ancestor graph.bases steps name ancestor :=
  (chainRun_chain contract (by simp [bounded, Bound.isExceededBy])).mem_iff bounded

/-- A contract that only has a name and bases. -/
def inheriting (name : String) (bases : List String) : ContractDecl :=
  { name := name
    kind := .contract
    functions := []
    structs := []
    enums := []
    stateVariables := []
    bases := bases
    location := default
    path := "" }

/-- A file that only has contracts. -/
def holding (path : String) (contracts : List ContractDecl) : FileOutline :=
  { path := path
    contracts := contracts
    imports := []
    pragmas := []
    structs := []
    enums := []
    functions := [] }

/-- A workspace where `A` is declared twice, inherits from `D` on two ways and from a name without a
contract, and is an ancestor of itself, as is `D` at once.
-/
def tangled : Workspace :=
  .ofFiles
    [holding "a.sol" [inheriting "A" ["E"], inheriting "B" ["D", "A"]],
     holding "b.sol"
       [inheriting "D" ["D"], inheriting "C" ["D"], inheriting "A" ["C", "B", "Missing", "C"]]]
    []

/-- The chains of a workspace exist for every depth limit. The chain of a contract is what the
search up comes to without fuel; it starts with the contract, repeats no name, and holds exactly the
names that are at most `limit` steps above the contract, each step taken in the declaration that
counts.
-/
theorem chain_boundedAncestry (settings : Settings) (workspace : Workspace)
    (known : settings.maxChainDepth = .ok (.int limit))
    : ∃ graph,
        ofWorkspace settings workspace = .ok graph
        ∧ ∀ contract ∈ workspace.contracts,
            let name := contract.name
            ChainRun graph [name] 1 (graph.bases name) [name] (graph.chain name)
            ∧ (graph.chain name).head? = some name
            ∧ (graph.chain name).Nodup
            ∧ ∀ ancestor,
                ancestor ∈ graph.chain name
                ↔ ∃ steps ≤ limit, Ancestor workspace.basesOf steps name ancestor := by
  obtain ⟨graph, built, contracts, bounded⟩ := ofWorkspace_spec workspace known
  refine ⟨graph, built, ?_⟩
  intro contract member name
  have depthKnown : graph.maxDepth = .int limit := bounded (List.ne_nil_of_mem member)
  have near : graph.maxDepth.isExceededBy 0 = false := by
    simp [depthKnown, Bound.isExceededBy]
  have indexed : name ∈ graph.contracts.keys :=
    (mem_keys_iff contracts).mpr ⟨contract, member, rfl⟩
  have run := chainRun_chain indexed near
  refine ⟨run, ?_, run.nodup (List.nodup_singleton name), ?_⟩
  · obtain ⟨rest, whole⟩ := run.isPrefix
    rw [← whole]
    rfl
  · intro ancestor
    rw [mem_chain_iff depthKnown indexed, bases_eq_basesOf contracts]

/-- One step above `A` there are its bases by its last declaration. -/
theorem chain_boundedAncestry_tangled
    : let settings := { SettingTables.default.settings with maxChainDepth := .ok (.int 1) }
      ∃ graph,
        ofWorkspace settings tangled = .ok graph
        ∧ graph.chain "A" = ["A", "C", "B", "Missing"]
        ∧ ∀ ancestor,
            ancestor ∈ graph.chain "A"
            ↔ ∃ steps ≤ 1, Ancestor tangled.basesOf steps "A" ancestor := by
  intro settings
  have known : settings.maxChainDepth = .ok (.int (1 : Nat)) := rfl
  obtain ⟨graph, built, chains⟩ := chain_boundedAncestry settings tangled known
  obtain ⟨-, -, -, member⟩ := chains (inheriting "A" ["E"]) (List.mem_cons_self)
  have same : graph = { contracts := .ofList tangled.contracts, maxDepth := .int 1 } :=
    Except.ok.inj (built.symm.trans rfl)
  refine ⟨graph, built, ?_, member⟩
  rw [same]
  rfl

end InheritanceGraph

end SolidityAtlas
