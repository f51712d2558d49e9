import SolidityAtlas.Proofs.Inheritance.Chains
import SolidityAtlas.Proofs.Inheritance.DepthFirst

/-! Chains as depth-first walks. The search up follows every path of its own, so it comes to an
ancestor as often as there are ways to it. Where the depth limit cuts no path, the chain is still
what a single walk gives that never comes to a name twice: below a path, whatever is settled has
nothing new above it.
-/

namespace SolidityAtlas

-----------------------------------------------------------------------------------------
-- Climbs
-----------------------------------------------------------------------------------------

/-- A climb from a name: each name is a base of the one before it, and none comes twice. -/
structure Climb (bases : String → List String) (start : String) (names : List String) : Prop where
  distinct : (start :: names).Nodup
  linked : (start :: names).IsChain fun name base => base ∈ bases name

section Climb

variable {bases : String → List String} {start base : String} {names : List String}

/-- Staying at a name is a climb. -/
theorem Climb.stay (bases : String → List String) (start : String) : Climb bases start [] where
  distinct := List.nodup_singleton start
  linked := .singleton start

/-- A climb from a base, away from a name of which it is a base, is a climb from that name. -/
theorem Climb.above (linked : base ∈ bases start) (climb : Climb bases base names)
    (away : start ∉ base :: names)
    : Climb bases start (base :: names) where
  distinct := List.nodup_cons.mpr ⟨away, climb.distinct⟩
  linked := List.isChain_cons_cons.mpr ⟨linked, climb.linked⟩

/-- All names of a climb but the last one have bases, by induction on the climb. -/
theorem Climb.dropLast_subset {contracts : List String}
    (known : ∀ name, bases name ≠ [] → name ∈ contracts) (climb : Climb bases start names)
    : (start :: names).dropLast ⊆ contracts := by
  induction names generalizing start with
  | nil => exact List.nil_subset _
  | cons base rest ih =>
      obtain ⟨step, onward⟩ := List.isChain_cons_cons.mp climb.linked
      have later : Climb bases base rest := ⟨(List.nodup_cons.mp climb.distinct).2, onward⟩
      rw [List.dropLast_cons_of_ne_nil (List.cons_ne_nil base rest)]
      exact List.cons_subset.mpr ⟨known start (List.ne_nil_of_mem step), ih later⟩

/-- A climb in a workspace has at most as many steps as the workspace has contracts. -/
theorem Climb.length_le {workspace : Workspace} (climb : Climb workspace.basesOf start names)
    : names.length ≤ workspace.contracts.length := by
  have known (name : String) (some : workspace.basesOf name ≠ [])
      : name ∈ workspace.contracts.map (·.name) := by
    rw [Workspace.basesOf] at some
    cases found : workspace.winning? name with
    | none => exact absurd (by rw [found]; rfl) some
    | some contract =>
        have named : contract.name = name := by simpa using List.find?_some found
        exact List.mem_map.mpr ⟨contract, by simpa using List.mem_of_find?_eq_some found, named⟩
  have distinct := climb.distinct.sublist (List.dropLast_sublist (start :: names))
  have fits := distinct.length_le_of_subset (climb.dropLast_subset known)
  simpa using fits

end Climb

namespace InheritanceGraph

-----------------------------------------------------------------------------------------
-- Names added in two parts
-----------------------------------------------------------------------------------------

section AppendNew

variable {names more others : List String}

/-- Adding names that are all there changes nothing. -/
theorem appendNew_of_subset (known : more ⊆ names) : appendNew names more = names := by
  induction more with
  | nil => rfl
  | cons name rest ih =>
      obtain ⟨here, later⟩ := List.cons_subset.mp known
      rw [appendNew, List.foldl_cons, if_pos (List.contains_iff_mem.mpr here)]
      exact ih later

/-- Adding distinct names none of which is there appends them. -/
theorem appendNew_of_disjoint (distinct : more.Nodup) (apart : names.Disjoint more)
    : appendNew names more = names ++ more := by
  induction more generalizing names with
  | nil => exact (List.append_nil names).symm
  | cons name rest ih =>
      obtain ⟨once, distinct⟩ := List.nodup_cons.mp distinct
      obtain ⟨new, apart⟩ := List.disjoint_cons_right.mp apart
      have grown : (names ++ [name]).Disjoint rest :=
        List.disjoint_append_left.mpr ⟨apart, List.singleton_disjoint.mpr once⟩
      rw [appendNew, List.foldl_cons, if_neg (by simpa using new)]
      exact (ih distinct grown).trans (List.append_assoc names [name] rest)

/-- A name that is not there is appended. -/
theorem appendNew_singleton {name : String} (new : name ∉ names)
    : appendNew names [name] = names ++ [name] :=
  appendNew_of_disjoint (List.nodup_singleton name) (List.disjoint_singleton.mpr new)

/-- Names that are put together first and then added are added one part after the other. Induction
on the second part, with the first one general.
-/
theorem appendNew_appendNew
    : appendNew names (appendNew more others) = appendNew (appendNew names more) others := by
  induction others generalizing more with
  | nil => rfl
  | cons name rest ih =>
      have single
          : appendNew names (appendNew more [name]) = appendNew (appendNew names more) [name] := by
        by_cases known : name ∈ more
        · have there : name ∈ appendNew names more := mem_appendNew.mpr (.inr known)
          have first : appendNew more [name] = more := appendNew_of_subset (by simpa using known)
          have second : appendNew (appendNew names more) [name] = appendNew names more :=
            appendNew_of_subset (by simpa using there)
          rw [first, second]
        · rw [appendNew_singleton known]
          exact List.foldl_append
      calc appendNew names (appendNew more (name :: rest))
        _ = appendNew (appendNew names (appendNew more [name])) rest := ih
        _ = appendNew (appendNew (appendNew names more) [name]) rest := by rw [single]

end AppendNew

-----------------------------------------------------------------------------------------
-- Runs within the limit
-----------------------------------------------------------------------------------------

variable {graph : InheritanceGraph} {path bases chain result seen : List String} {depth : Nat}
  {base name : String}

/-- No climb from one of the bases that keeps off the path gets beyond the limit, where the bases
are at a depth.
-/
def Shallow (graph : InheritanceGraph) (path : List String) (depth : Nat) (bases : List String)
    : Prop :=
  ∀ base ∈ bases,
    ∀ names,
      Climb graph.bases base names
      → path.Disjoint (base :: names)
      → graph.maxDepth.isExceededBy (depth + names.length : Nat) = false

/-- What is shallow for some bases is so for the later ones. -/
theorem Shallow.tail (shallow : Shallow graph path depth (base :: bases))
    : Shallow graph path depth bases :=
  fun other member => shallow other (List.mem_cons_of_mem _ member)

/-- One step up stays shallow, as a climb from above is a climb from the base. -/
theorem Shallow.climb (shallow : Shallow graph path depth (base :: bases)) (fresh : base ∉ path)
    : Shallow graph (base :: path) (depth + 1) (graph.bases base) := by
  intro next linked names climb apart
  obtain ⟨away, off⟩ := List.disjoint_cons_left.mp apart
  have within :=
    shallow base List.mem_cons_self (next :: names) (climb.above linked away)
      (List.disjoint_cons_right.mpr ⟨fresh, off⟩)
  rwa [List.length_cons, ← Nat.add_assoc, Nat.add_right_comm] at within

/-- A run adds nothing to settled names that have the bases it is to climb to. Induction on the run:
a base that is settled and off the path comes with its own bases.
-/
theorem ChainRun.subset_of_settled (run : ChainRun graph path depth bases chain result)
    (settled : ∀ name ∈ seen, name ∉ path → graph.bases name ⊆ seen) (known : bases ⊆ seen)
    (started : chain ⊆ seen)
    : result ⊆ seen := by
  induction run with
  | done => exact started
  | visited _ _ ih => exact ih settled (List.cons_subset.mp known).2 started
  | tooDeep _ _ _ ih => exact ih settled (List.cons_subset.mp known).2 started
  | climb fresh _ _ _ subIh restIh =>
      obtain ⟨here, later⟩ := List.cons_subset.mp known
      refine restIh settled later ?_
      intro name member
      rcases mem_appendNew.mp member with old | new
      · exact started old
      · refine subIh ?_ (settled _ here fresh) (by simpa using here) new
        intro other member away
        exact settled other member fun onPath => away (List.mem_cons_of_mem _ onPath)

/-- A run that the limit does not cut is a depth-first walk, where it adds to settled names.
Induction on the run: a climb to a name that is settled already adds nothing, and a climb to a new
one enters it.
-/
theorem ChainRun.depthFirst (run : ChainRun graph path depth bases chain result)
    (shallow : Shallow graph path depth bases)
    (settled : Settled graph.bases path (appendNew seen chain))
    : DepthFirst graph.bases (appendNew seen chain) bases (appendNew seen result) := by
  induction run generalizing seen with
  | done => exact .done
  | visited known _ ih => exact .known (settled.onPath known) (ih shallow.tail settled)
  | @tooDeep path depth base _ _ _ fresh deep _ _ =>
      have within :=
        shallow base List.mem_cons_self [] (.stay _ base) (List.disjoint_singleton.mpr fresh)
      rw [List.length_nil, Nat.add_zero, deep] at within
      cases within
  | @climb path depth base bases chain above result fresh near sub rest subIh restIh =>
      have merged
          : appendNew seen (appendNew chain above) = appendNew (appendNew seen chain) above :=
        appendNew_appendNew
      by_cases old : base ∈ appendNew seen chain
      -- the search climbs to the base once more, where the walk passes it by
      · have nothing : above ⊆ appendNew seen chain := by
          refine sub.subset_of_settled ?_ (settled.closed base old fresh) (by simpa using old)
          intro name member away
          exact settled.closed name member fun onPath => away (List.mem_cons_of_mem _ onPath)
        have same : appendNew seen (appendNew chain above) = appendNew seen chain := by
          rw [merged, appendNew_of_subset nothing]
        rw [← same] at settled
        have later := restIh shallow.tail settled
        rw [same] at later
        exact .known old later
      · have entered : appendNew (appendNew seen chain) [base] = appendNew seen chain ++ [base] :=
          appendNew_singleton old
        have below := subIh (shallow.climb fresh) (entered ▸ settled.enter)
        rw [entered, ← merged] at below
        have entry := DepthFirst.visit old below .done
        exact .visit old below (restIh shallow.tail (entry.settled settled))

/-- The chain of a contract is the depth-first walk from it, where the limit cuts no climb. -/
theorem depthFirst_chain (contract : name ∈ graph.contracts.keys)
    (near : graph.maxDepth.isExceededBy 0 = false)
    (shallow : Shallow graph [name] 1 (graph.bases name))
    : DepthFirst graph.bases [] [name] (graph.chain name) := by
  have run := chainRun_chain contract near
  have settled : Settled graph.bases [name] (appendNew [] [name]) :=
    ⟨List.Subset.refl _, fun other member away => absurd member away⟩
  have walk := run.depthFirst shallow settled
  have whole : appendNew [] (graph.chain name) = graph.chain name :=
    appendNew_of_disjoint (run.nodup (List.nodup_singleton name)) (List.disjoint_nil_left _)
  rw [whole] at walk
  exact .visit List.not_mem_nil walk .done

/-- A name without a contract has nothing above it, so the walk from it ends at once. -/
theorem depthFirst_chain_of_not_mem (unknown : name ∉ graph.contracts.keys)
    : DepthFirst graph.bases [] [name] (graph.chain name) := by
  have alone : graph.chain name = [name] := by
    rw [InheritanceGraph.chain, if_neg (by rwa [KeyedList.contains_iff])]
  have none : graph.bases name = [] :=
    List.eq_nil_iff_forall_not_mem.mpr fun above linked =>
      unknown (mem_keys_of_mem_bases linked)
  have below : DepthFirst graph.bases [name] (graph.bases name) [name] := by
    rw [none]
    exact .done
  rw [alone]
  exact .visit List.not_mem_nil below .done

/-- A workspace where the ancestors of `A` inherit from each other and from `A`: below `B` the
search up goes on from `C` to `D` only, and below `C` it comes to `B` once more.
-/
def knotted : Workspace :=
  .ofFiles
    [holding "a.sol" [inheriting "A" ["B", "C"], inheriting "C" ["B", "D"]],
     holding "b.sol" [inheriting "D" ["A", "Missing"], inheriting "B" ["C"]]]
    []

/-- For every depth limit a chain is found by one walk. Where no climb from a name has more steps
than the limit allows, the chain of the name is, name by name, what a depth-first walk from it ends
with, over bases in the order of the declarations that count and with one list of visited names for
all branches; the walk ends with nothing else.
-/
theorem chain_eq_depthFirst {limit : Bound} (settings : Settings) (workspace : Workspace)
    (known : settings.maxChainDepth = .ok limit)
    : ∃ graph,
        ofWorkspace settings workspace = .ok graph
        ∧ ∀ name,
            (∀ names,
              Climb workspace.basesOf name names → limit.isExceededBy names.length = false)
            → ∀ walked,
                DepthFirst workspace.basesOf [] [name] walked ↔ walked = graph.chain name := by
  obtain ⟨graph, built, contracts, bounded⟩ := ofWorkspace_spec workspace known
  refine ⟨graph, built, ?_⟩
  intro name within walked
  have walk : DepthFirst workspace.basesOf [] [name] (graph.chain name) := by
    rw [← bases_eq_basesOf contracts] at within ⊢
    by_cases contract : name ∈ graph.contracts.keys
    · obtain ⟨declared, member, -⟩ := (mem_keys_iff contracts).mp contract
      have depthKnown : graph.maxDepth = limit := bounded (List.ne_nil_of_mem member)
      refine depthFirst_chain contract ?_ ?_
      · rw [depthKnown]
        exact within [] (.stay _ name)
      · intro base linked names climb apart
        have away : name ∉ base :: names := List.singleton_disjoint.mp apart
        rw [depthKnown, Nat.add_comm]
        exact within (base :: names) (climb.above linked away)
    · exact depthFirst_chain_of_not_mem contract
  constructor
  · intro other
    exact other.unique walk
  · rintro rfl
    exact walk

/-- A limit of as many steps as there are contracts cuts no climb, so one walk finds the chain. -/
theorem chain_eq_depthFirst_knotted
    : let settings := { SettingTables.default.settings with maxChainDepth := .ok (.int 4) }
      ∃ graph,
        ofWorkspace settings knotted = .ok graph
        ∧ (∀ names, Climb knotted.basesOf "A" names → names.length ≤ 4)
        ∧ graph.chain "A" = ["A", "B", "C", "D", "Missing"]
        ∧ ∀ walked,
            DepthFirst knotted.basesOf [] ["A"] walked
            ↔ walked = ["A", "B", "C", "D", "Missing"] := by
  intro settings
  have known : settings.maxChainDepth = .ok (.int (4 : Nat)) := rfl
  obtain ⟨graph, built, walks⟩ := chain_eq_depthFirst settings knotted known
  have short (names : List String) (climb : Climb knotted.basesOf "A" names)
      : names.length ≤ 4 :=
    climb.length_le
  have within (names : List String) (climb : Climb knotted.basesOf "A" names)
      : (Bound.int (4 : Nat)).isExceededBy names.length = false := by
    have few := short names climb
    simp only [Bound.isExceededBy, decide_eq_false_iff_not]
    omega
  have same : graph = { contracts := .ofList knotted.contracts, maxDepth := .int 4 } :=
    Except.ok.inj (built.symm.trans rfl)
  have chain : graph.chain "A" = ["A", "B", "C", "D", "Missing"] := by
    rw [same]
    rfl
  refine ⟨graph, built, short, chain, ?_⟩
  intro walked
  rw [← chain]
  exact walks "A" within walked

end InheritanceGraph

end SolidityAtlas
