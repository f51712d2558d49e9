import SolidityAtlas.Proofs.Inheritance.Chains
import SolidityAtlas.Proofs.Inheritance.DepthFirst

/-! What inherits from a name in a workspace, which is everything with the name above it. The search
down is told without fuel, as the runs it makes over one growing list of found contracts. A run ends
with a list that is closed under inheritors, so it agrees with the chains, which look up.
-/

namespace SolidityAtlas

namespace InheritanceGraph

-----------------------------------------------------------------------------------------
-- Runs of the search down
-----------------------------------------------------------------------------------------

/-- `DerivedRun graph found pending result`: the search down takes the names in `pending` one after
another, adds each that is not in `found` yet and what inherits from it, and ends with `result`. A
run is a finite derivation, so a search that has one comes to an end.
-/
inductive DerivedRun (graph : InheritanceGraph)
    : List String → List String → List String → Prop
  | done {found} : DerivedRun graph found [] found
  | known {found name pending result} (seen : name ∈ found)
    (rest : DerivedRun graph found pending result)
    : DerivedRun graph found (name :: pending) result
  | visit {found name pending below result} (new : name ∉ found)
    (sub : DerivedRun graph (found ++ [name]) (graph.inheritors name) below)
    (rest : DerivedRun graph below pending result)
    : DerivedRun graph found (name :: pending) result

variable {graph : InheritanceGraph} {found pending result : List String} {name : String}

/-- All inheritors are contracts of the graph. -/
theorem inheritors_subset_keys : graph.inheritors name ⊆ graph.contracts.keys :=
  fun _ linked => mem_keys_of_mem_bases (mem_inheritors_iff.mp linked)

/-- A run is a depth-first walk over inheritors. -/
theorem DerivedRun.depthFirst (run : DerivedRun graph found pending result)
    : DepthFirst graph.inheritors found pending result := by
  induction run with
  | done => exact .done
  | known seen _ ih => exact .known seen ih
  | visit new _ _ sub rest => exact .visit new sub rest

/-- A run keeps what was found before. -/
theorem DerivedRun.isPrefix (run : DerivedRun graph found pending result) : found <+: result :=
  run.depthFirst.isPrefix

/-- A run finds no name twice. -/
theorem DerivedRun.nodup (run : DerivedRun graph found pending result) (distinct : found.Nodup)
    : result.Nodup :=
  run.depthFirst.nodup distinct

/-- A run finds contracts only, where it is to take contracts only. -/
theorem DerivedRun.subset_keys (run : DerivedRun graph found pending result)
    (foundKnown : found ⊆ graph.contracts.keys) (pendingKnown : pending ⊆ graph.contracts.keys)
    : result ⊆ graph.contracts.keys := by
  induction run with
  | done => exact foundKnown
  | known _ _ ih => exact ih foundKnown (List.cons_subset.mp pendingKnown).2
  | visit _ _ _ subKnown restKnown =>
      obtain ⟨contract, later⟩ := List.cons_subset.mp pendingKnown
      refine restKnown (subKnown ?_ inheritors_subset_keys) later
      exact List.append_subset.mpr ⟨foundKnown, by simpa using contract⟩

/-- Distinct contracts stay distinct contracts when one more is found. -/
theorem distinct_contracts_concat (distinct : found.Nodup)
    (known : found ⊆ graph.contracts.keys) (contract : name ∈ graph.contracts.keys)
    (new : name ∉ found)
    : (found ++ [name]).Nodup ∧ found ++ [name] ⊆ graph.contracts.keys := by
  constructor
  · simpa using List.Nodup.concat new distinct
  · exact List.append_subset.mpr ⟨known, by simpa using contract⟩

/-- The search with fuel makes a run when the fuel and what is found together reach the number of
contracts. By induction on the fuel, and for one amount of fuel on the names to take: each name that
is taken is one more contract, so without fuel there is none left to take.
-/
theorem derivedRun_of_fuel (fuel : Nat) (found pending : List String) (distinct : found.Nodup)
    (foundKnown : found ⊆ graph.contracts.keys) (pendingKnown : pending ⊆ graph.contracts.keys)
    (budget : graph.contracts.keys.length ≤ fuel + found.length)
    : DerivedRun graph found pending
        (pending.foldl
          (fun found inheritor =>
            if found.contains inheritor then found
            else derivedFrom graph fuel (found ++ [inheritor]) inheritor)
          found) := by
  induction fuel generalizing found pending with
  | zero =>
      induction pending with
      | nil => exact .done
      | cons name rest restRun =>
          obtain ⟨contract, later⟩ := List.cons_subset.mp pendingKnown
          have seen : name ∈ found := by
            by_contra new
            obtain ⟨grown, grownKnown⟩ :=
              distinct_contracts_concat distinct foundKnown contract new
            have fits := grown.length_le_of_subset grownKnown
            rw [List.length_append, List.length_singleton] at fits
            omega
          rw [List.foldl_cons, if_pos (List.contains_iff_mem.mpr seen)]
          exact .known seen (restRun later)
  | succ fuel ih =>
      induction pending generalizing found with
      | nil => exact .done
      | cons name rest restRun =>
          obtain ⟨contract, later⟩ := List.cons_subset.mp pendingKnown
          rw [List.foldl_cons]
          by_cases seen : name ∈ found
          · rw [if_pos (List.contains_iff_mem.mpr seen)]
            exact .known seen (restRun found distinct foundKnown later budget)
          · obtain ⟨grown, grownKnown⟩ :=
              distinct_contracts_concat distinct foundKnown contract seen
            have length : (found ++ [name]).length = found.length + 1 := List.length_append
            rw [if_neg (by simpa using seen), derivedFrom]
            have sub :=
              ih (found ++ [name]) (graph.inheritors name) grown grownKnown
                inheritors_subset_keys (by omega)
            have longer := sub.isPrefix.length_le
            refine .visit seen sub (restRun _ (sub.nodup grown) ?_ later (by omega))
            exact sub.subset_keys grownKnown inheritors_subset_keys

/-- What inherits from a name is a run that takes its inheritors and starts with nothing found. -/
theorem derivedRun_derived : DerivedRun graph [] (graph.inheritors name) (graph.derived name) := by
  rw [derived, derivedFrom]
  refine derivedRun_of_fuel _ [] _ List.nodup_nil (List.nil_subset _) inheritors_subset_keys ?_
  simp [KeyedList.keys]

-----------------------------------------------------------------------------------------
-- What a run finds
-----------------------------------------------------------------------------------------

/-- A run finds only what has one of the names to take above it, or is one of them. -/
theorem DerivedRun.sound (run : DerivedRun graph found pending result) (member : name ∈ result)
    : name ∈ found ∨ ∃ start ∈ pending, ∃ steps, Ancestor graph.bases steps name start := by
  induction run with
  | done => exact .inl member
  | known _ _ ih =>
      rcases ih member with old | ⟨start, later, reached⟩
      · exact .inl old
      · exact .inr ⟨start, List.mem_cons_of_mem _ later, reached⟩
  | @visit found taken pending below result _ _ _ subFound restFound =>
      rcases restFound member with middle | ⟨start, later, reached⟩
      · rcases subFound middle with old | ⟨inheritor, linked, steps, reached⟩
        · rcases List.mem_append.mp old with old | same
          · exact .inl old
          · obtain rfl := List.mem_singleton.mp same
            exact .inr ⟨_, List.mem_cons_self, 0, .self _⟩
        · exact .inr ⟨taken, List.mem_cons_self, steps + 1,
            reached.snoc (mem_inheritors_iff.mp linked)⟩
      · exact .inr ⟨start, List.mem_cons_of_mem _ later, reached⟩

/-- A run finds all names it is to take. -/
theorem DerivedRun.pending_subset (run : DerivedRun graph found pending result)
    : pending ⊆ result :=
  run.depthFirst.pending_subset

/-- What a run finds anew comes with all its inheritors. -/
theorem DerivedRun.closed (run : DerivedRun graph found pending result) (member : name ∈ result)
    : name ∈ found ∨ graph.inheritors name ⊆ result :=
  run.depthFirst.closed member

/-- A list that comes with all inheritors of its names comes with everything below them. -/
theorem mem_of_ancestor (closed : ∀ name ∈ result, graph.inheritors name ⊆ result)
    {steps : Nat} {ancestor : String} (reached : Ancestor graph.bases steps name ancestor)
    (member : ancestor ∈ result)
    : name ∈ result := by
  induction reached with
  | self => exact member
  | above linked _ ih => exact closed _ (ih member) (mem_inheritors_iff.mpr linked)

/-- What inherits from a name is what has it above, by one step or more. -/
theorem mem_derived_iff {base : String}
    : name ∈ graph.derived base ↔ ∃ steps, Ancestor graph.bases (steps + 1) name base := by
  have run : DerivedRun graph [] (graph.inheritors base) (graph.derived base) := derivedRun_derived
  constructor
  · intro member
    rcases run.sound member with old | ⟨inheritor, linked, steps, reached⟩
    · cases old
    · exact ⟨steps, reached.snoc (mem_inheritors_iff.mp linked)⟩
  · rintro ⟨steps, reached⟩
    obtain ⟨child, earlier, linked⟩ := reached.last
    have closed : ∀ name ∈ graph.derived base, graph.inheritors name ⊆ graph.derived base :=
      fun _ member => (run.closed member).resolve_left List.not_mem_nil
    exact mem_of_ancestor closed earlier (run.pending_subset (mem_inheritors_iff.mpr linked))

/-- For every depth limit the view down agrees with the view up. What inherits from a name is what
the search down comes to without fuel; it repeats no name, names contracts only, and holds exactly
those that have the name above them by one step or more, itself included. Hence another contract
whose chain is not cut before the name inherits from it exactly if the name is in its chain.
-/
theorem derived_agrees_chain {limit : Nat} (settings : Settings) (workspace : Workspace)
    (known : settings.maxChainDepth = .ok (.int limit))
    : ∃ graph,
        ofWorkspace settings workspace = .ok graph
        ∧ ∀ name,
            DerivedRun graph [] (graph.inheritors name) (graph.derived name)
            ∧ (graph.derived name).Nodup
            ∧ (∀ inheritor ∈ graph.derived name,
                ∃ contract ∈ workspace.contracts, contract.name = inheritor)
            ∧ (∀ inheritor,
                inheritor ∈ graph.derived name
                ↔ ∃ steps, Ancestor workspace.basesOf (steps + 1) inheritor name)
            ∧ ∀ contract ∈ workspace.contracts,
                contract.name ≠ name
                → ((∃ steps ≤ limit, Ancestor workspace.basesOf steps contract.name name)
                  ∨ ∀ steps, ¬ Ancestor workspace.basesOf steps contract.name name)
                → (contract.name ∈ graph.derived name ↔ name ∈ graph.chain contract.name) := by
  obtain ⟨graph, built, contracts, bounded⟩ := ofWorkspace_spec workspace known
  refine ⟨graph, built, ?_⟩
  intro name
  have run : DerivedRun graph [] (graph.inheritors name) (graph.derived name) := derivedRun_derived
  have below : ∀ inheritor,
      inheritor ∈ graph.derived name
      ↔ ∃ steps, Ancestor workspace.basesOf (steps + 1) inheritor name := by
    intro inheritor
    rw [mem_derived_iff, bases_eq_basesOf contracts]
  refine ⟨run, run.nodup List.nodup_nil, ?_, below, ?_⟩
  · intro inheritor member
    have indexed := run.subset_keys (List.nil_subset _) inheritors_subset_keys member
    exact (mem_keys_iff contracts).mp indexed
  · intro contract member other reach
    have indexed := (mem_keys_iff contracts).mpr ⟨contract, member, rfl⟩
    rw [below, mem_chain_iff (bounded (List.ne_nil_of_mem member)) indexed,
      bases_eq_basesOf contracts]
    rcases reach with ⟨steps, within, reached⟩ | never
    · refine iff_of_true ?_ ⟨steps, within, reached⟩
      cases reached with
      | self => exact absurd rfl other
      | above linked rest => exact ⟨_, .above linked rest⟩
    · refine iff_of_false ?_ ?_
      · rintro ⟨steps, reached⟩
        exact never _ reached
      · rintro ⟨steps, -, reached⟩
        exact never _ reached

/-- Below `D` there is `D` itself, and `A`, whose chain reaches `D` in two steps. -/
theorem derived_agrees_chain_tangled
    : let settings := { SettingTables.default.settings with maxChainDepth := .ok (.int 2) }
      ∃ graph,
        ofWorkspace settings tangled = .ok graph
        ∧ graph.derived "D" = ["B", "A", "D", "C"]
        ∧ ("A" ∈ graph.derived "D" ↔ "D" ∈ graph.chain "A") := by
  intro settings
  have known : settings.maxChainDepth = .ok (.int (2 : Nat)) := rfl
  obtain ⟨graph, built, views⟩ := derived_agrees_chain settings tangled known
  obtain ⟨-, -, -, -, agree⟩ := views "D"
  have same : graph = { contracts := .ofList tangled.contracts, maxDepth := .int 2 } :=
    Except.ok.inj (built.symm.trans rfl)
  have first : "C" ∈ tangled.basesOf "A" := by decide
  have second : "D" ∈ tangled.basesOf "C" := by decide
  have reached : Ancestor tangled.basesOf 2 "A" "D" := .above first (.above second (.self "D"))
  refine ⟨graph, built, ?_, ?_⟩
  · rw [same]
    rfl
  · exact agree (inheriting "A" ["E"]) List.mem_cons_self (by decide)
      (.inl ⟨2, Nat.le_refl 2, reached⟩)

end InheritanceGraph

end SolidityAtlas
