import SolidityAtlas.Proofs.FirstWith
import SolidityAtlas.Proofs.Inheritance.Derived

/-! What is an implementation of a method below a name, said without the search: an implementer is a
contract below the name, and its implementation is the first body in its chain. The search down to
the implementers, the search up their chains and the search of all contracts for bodies agree.
-/

namespace SolidityAtlas

-----------------------------------------------------------------------------------------
-- Bodies of a method
-----------------------------------------------------------------------------------------

/-- A function gives a method a body: it has the name of the method, and its body is not blank. -/
def FunctionDecl.IsBodyOf (method : String) (function : FunctionDecl) : Prop :=
  function.name = method ∧ ∃ c ∈ function.body.toList, Text.isSpace c = false

/-- The declaration that counts for a name is no interface. -/
def Workspace.IsConcrete (workspace : Workspace) (name : String) : Prop :=
  ∃ contract, workspace.winning? name = some contract ∧ contract.kind ≠ .interface

/-- The declaration that counts for a name is no interface and gives a method a body. -/
def Workspace.GivesBody (workspace : Workspace) (method name : String) : Prop :=
  ∃ contract,
    workspace.winning? name = some contract
    ∧ contract.kind ≠ .interface
    ∧ ∃ function ∈ contract.functions, function.IsBodyOf method

namespace InheritanceGraph

variable {workspace : Workspace} {graph : InheritanceGraph} {contract : ContractDecl}
  {function : FunctionDecl} {name method start base implementer : String} {entry : Implementation}

/-- The test of a contract for a body of a method passes just the bodies of the method. -/
theorem implementing_iff
    : (function.name = method && function.isImplemented) = true ↔ function.IsBodyOf method := by
  simp [FunctionDecl.isImplemented, FunctionDecl.IsBodyOf]

/-- What implements a method in a contract is its first body of the method. -/
theorem implementing?_eq_some_iff
    : implementing? contract method = some function
      ↔ FirstWith (·.IsBodyOf method) contract.functions function :=
  find?_eq_some_iff_firstWith fun _ => implementing_iff

/-- A contract implements a method if one of its functions does. -/
theorem isSome_implementing?_iff
    : (implementing? contract method).isSome = true
      ↔ ∃ function ∈ contract.functions, function.IsBodyOf method := by
  simp only [implementing?, List.find?_isSome, implementing_iff]

/-- Interfaces are left out by their kind. -/
theorem not_isInterface_iff : (!contract.isInterface) = true ↔ contract.kind ≠ .interface := by
  simp [ContractDecl.isInterface]

/-- The concrete contract of a name is the declaration that counts, if it is no interface. -/
theorem concrete?_eq_some_iff (contracts : graph.contracts = .ofList workspace.contracts)
    : graph.concrete? name = some contract
      ↔ workspace.winning? name = some contract ∧ contract.kind ≠ .interface := by
  rw [concrete?, contract?_eq_winning? contracts, Option.filter_eq_some_iff, not_isInterface_iff]

/-- A name has a concrete contract if the declaration that counts is no interface. -/
theorem isSome_concrete?_iff (contracts : graph.contracts = .ofList workspace.contracts)
    : (graph.concrete? name).isSome = true ↔ workspace.IsConcrete name := by
  simp only [Option.isSome_iff_exists, concrete?_eq_some_iff contracts, Workspace.IsConcrete]

-----------------------------------------------------------------------------------------
-- The search of a chain
-----------------------------------------------------------------------------------------

/-- The implementation that a contract has by a function in a contract of its chain. -/
def implementationBy (graph : InheritanceGraph) (implementer name : String)
    (contract : ContractDecl) (function : FunctionDecl) : Implementation :=
  { contract := name
    contractKind := contract.kind
    function := function
    path := contract.path
    isInherited := name ≠ implementer
    chain := graph.chain implementer
    implementer := implementer }

/-- What the search of the chain of a contract makes of one name in it. -/
def bodyIn (graph : InheritanceGraph) (implementer method name : String) : Option Implementation :=
  (graph.concrete? name).bind fun contract =>
    (implementing? contract method).bind fun function =>
      some (graph.implementationBy implementer name contract function)

/-- The implementation that a contract has or inherits is that of the first name in its chain that
has one.
-/
theorem implementationIn_eq_findSome?
    : graph.implementationIn implementer method
      = (graph.chain implementer).findSome? (graph.bodyIn implementer method) :=
  rfl

/-- The implementation by a name comes from a body in the concrete contract of the name. -/
theorem bodyIn_eq_some_iff
    : graph.bodyIn implementer method name = some entry
      ↔ ∃ contract function,
          graph.concrete? name = some contract
          ∧ implementing? contract method = some function
          ∧ graph.implementationBy implementer name contract function = entry := by
  simp only [bodyIn, Option.bind_eq_some_iff, Option.some.injEq, exists_and_left]

/-- A name has an implementation just if its contract gives the method a body. -/
theorem isSome_bodyIn_iff (contracts : graph.contracts = .ofList workspace.contracts)
    : (graph.bodyIn implementer method name).isSome = true
      ↔ workspace.GivesBody method name := by
  rw [Option.isSome_iff_exists]
  constructor
  · rintro ⟨entry, found⟩
    obtain ⟨contract, function, concrete, body, -⟩ := bodyIn_eq_some_iff.mp found
    obtain ⟨winning, kind⟩ := (concrete?_eq_some_iff contracts).mp concrete
    have first := implementing?_eq_some_iff.mp body
    exact ⟨contract, winning, kind, function, first.mem, first.has⟩
  · rintro ⟨contract, winning, kind, bodies⟩
    obtain ⟨function, body⟩ :=
      Option.isSome_iff_exists.mp (isSome_implementing?_iff.mpr bodies)
    have concrete := (concrete?_eq_some_iff contracts).mpr ⟨winning, kind⟩
    exact ⟨_, bodyIn_eq_some_iff.mpr ⟨contract, function, concrete, body, rfl⟩⟩

/-- A contract has or inherits an implementation just if a contract in its chain gives a body. -/
theorem isSome_implementationIn_iff (contracts : graph.contracts = .ofList workspace.contracts)
    : (graph.implementationIn implementer method).isSome = true
      ↔ ∃ holder ∈ graph.chain implementer, workspace.GivesBody method holder := by
  simp only [implementationIn_eq_findSome?, List.findSome?_isSome_iff,
    isSome_bodyIn_iff contracts]

/-- A chain with a name in it starts with its own name. A limit below the start leaves no chain. -/
theorem head?_chain_of_mem (member : name ∈ graph.chain start)
    : (graph.chain start).head? = some start := by
  by_cases contract : start ∈ graph.contracts.keys
  · cases deep : graph.maxDepth.isExceededBy 0 with
    | true =>
        have nothing : graph.chain start = [] := by
          simp [chain, chainFrom, KeyedList.contains_iff.mpr contract, deep]
        rw [nothing] at member
        cases member
    | false =>
        obtain ⟨rest, whole⟩ := (chainRun_chain contract deep).isPrefix
        rw [← whole]
        rfl
  · rw [chain, if_neg (mt KeyedList.contains_iff.mp contract)]
    rfl

/-- A body that a contract gives itself is among all bodies of its method. -/
theorem exists_withMethod (concrete : graph.concrete? name = some contract)
    (member : function ∈ contract.functions) (body : function.IsBodyOf method)
    : ∃ entry ∈ graph.withMethod method none,
        entry.contract = name ∧ entry.function = function := by
  obtain ⟨found, kind⟩ := Option.filter_eq_some_iff.mp concrete
  obtain ⟨indexed, rfl⟩ := KeyedList.get?_eq_some_iff.mp found
  simp only [withMethod, List.mem_flatMap, List.mem_map, List.mem_filter]
  refine ⟨_, ⟨contract, ⟨indexed, kind⟩, function, ⟨member, ?_⟩, rfl⟩, rfl, rfl⟩
  simpa using implementing_iff.mpr body

end InheritanceGraph

-----------------------------------------------------------------------------------------
-- Implementations below a name
-----------------------------------------------------------------------------------------

/-- What an implementation says is right: its chain is that of the implementer, which it starts
with, its contract is the first one there that gives the method a body, and its function the first
body that this contract declares. It is inherited unless the implementer gives a body itself, and
the search of all contracts for bodies lists its function under its contract.
-/
structure Implementation.IsExact (workspace : Workspace) (graph : InheritanceGraph)
    (method : String) (entry : Implementation) : Prop where
  chain : entry.chain = graph.chain entry.implementer
  start : entry.chain.head? = some entry.implementer
  contract : FirstWith (workspace.GivesBody method) entry.chain entry.contract
  function
    : ∃ contract,
        workspace.winning? entry.contract = some contract
        ∧ contract.kind = entry.contractKind
        ∧ contract.path = entry.path
        ∧ FirstWith (·.IsBodyOf method) contract.functions entry.function
  inherited : entry.isInherited = true ↔ ¬ workspace.GivesBody method entry.implementer
  listed
    : ∃ own ∈ graph.withMethod method none,
        own.contract = entry.contract ∧ own.function = entry.function

namespace InheritanceGraph

variable {workspace : Workspace} {graph : InheritanceGraph}
  {name method base implementer : String} {entry : Implementation}

/-- The implementation of a contract is its own, and exact. -/
theorem isExact_of_implementationIn (contracts : graph.contracts = .ofList workspace.contracts)
    (found : graph.implementationIn implementer method = some entry)
    : entry.implementer = implementer ∧ entry.IsExact workspace graph method := by
  rw [implementationIn_eq_findSome?] at found
  obtain ⟨holder, first, here⟩ :=
    FirstWith.of_findSome? (fun _ => isSome_bodyIn_iff contracts) found
  obtain ⟨contract, function, concrete, body, rfl⟩ := bodyIn_eq_some_iff.mp here
  have starts := head?_chain_of_mem first.mem
  have firstBody := implementing?_eq_some_iff.mp body
  obtain ⟨winning, -⟩ := (concrete?_eq_some_iff contracts).mp concrete
  refine ⟨rfl, rfl, starts, first, ⟨contract, winning, rfl, rfl, firstBody⟩, ?_,
    exists_withMethod concrete firstBody.mem firstBody.has⟩
  rw [implementationBy, decide_eq_true_iff]
  constructor
  -- a body of the implementer itself would be the first one, as the chain starts with it
  · intro other own
    obtain ⟨rest, whole⟩ := List.head?_eq_some_iff.mp starts
    rw [whole] at first
    exact other (first.eq_head own)
  · rintro none rfl
    exact none first.has

/-- The implementers are the contracts below the name that are no interface and have or inherit an
implementation, in order.
-/
theorem map_implementer_implementations
    (contracts : graph.contracts = .ofList workspace.contracts)
    : (graph.implementations base method).map (·.implementer)
      = (graph.derived base).filter fun name =>
          (graph.concrete? name).isSome && (graph.implementationIn name method).isSome := by
  rw [implementations, List.map_filterMap, ← List.filterMap_eq_filter]
  refine List.filterMap_congr fun name _ => ?_
  rw [Option.guard]
  cases graph.concrete? name with
  | none => rfl
  | some contract =>
      cases found : graph.implementationIn name method with
      | none => simp
      | some entry =>
          obtain ⟨own, -⟩ := isExact_of_implementationIn contracts found
          simp [own]

/-- A contract with functions. -/
def declaring (name : String) (kind : ContractKind) (bases : List String)
    (functions : List FunctionDecl) : ContractDecl :=
  { inheriting name bases with kind := kind, functions := functions }

/-- A function that only has a name and a body. -/
def bodied (name body : String) : FunctionDecl :=
  { name := name
    visibility := "public"
    mutability := none
    parameters := []
    returns := []
    modifiers := []
    body := body
    source := ""
    location := default
    path := ""
    contract := none }

/-- A workspace where `Both` comes to the interface `Token` on two ways. On the first one there is
`Left`, which last declares `send` without a body, and then `Base`; on the second one there is
`Right`, with two bodies after a blank one. `Base` inherits from `Both` again.
-/
def overloaded : Workspace :=
  .ofFiles
    [holding "a.sol"
       [declaring "Token" .interface [] [bodied "send" "\x7b old(); \x7d"],
        declaring "Left" .contract ["Base"] [bodied "send" "\x7b old(); \x7d"],
        declaring "Right" .contract ["Base"]
          [bodied "send" " \n", bodied "send" "\x7b first(); \x7d",
           bodied "send" "\x7b second(); \x7d"]],
     holding "b.sol"
       [declaring "Base" .abstract ["Token", "Both"] [bodied "send" "\x7b base(); \x7d"],
        declaring "Both" .contract ["Left", "Right"] [bodied "receive" "\x7b \x7d"],
        declaring "Left" .contract ["Base"] [bodied "send" ""],
        declaring "Other" .interface ["Base"] []]]
    []

/-- The implementations of a method below a name are exact for every depth limit. There is one for
each contract below the name that is no interface and has a contract in its chain that gives the
method a body, in the order of contracts below the name; each tells the first such contract and the
first body there.
-/
theorem implementations_exact {limit : Bound} (settings : Settings) (workspace : Workspace)
    (known : settings.maxChainDepth = .ok limit)
    : ∃ graph,
        ofWorkspace settings workspace = .ok graph
        ∧ ∀ base method,
            let implementers := (graph.implementations base method).map (·.implementer)
            implementers.Nodup
            ∧ implementers.Sublist (graph.derived base)
            ∧ (∀ name,
                name ∈ implementers
                ↔ name ∈ graph.derived base
                  ∧ workspace.IsConcrete name
                  ∧ ∃ holder ∈ graph.chain name, workspace.GivesBody method holder)
            ∧ ∀ entry ∈ graph.implementations base method,
                entry.IsExact workspace graph method := by
  obtain ⟨graph, built, contracts, -⟩ := ofWorkspace_spec workspace known
  refine ⟨graph, built, ?_⟩
  intro base method implementers
  have filtered
      : implementers
        = (graph.derived base).filter fun name =>
            (graph.concrete? name).isSome && (graph.implementationIn name method).isSome :=
    map_implementer_implementations contracts
  have ordered : implementers.Sublist (graph.derived base) :=
    filtered ▸ List.filter_sublist
  refine ⟨ordered.nodup (derivedRun_derived.nodup List.nodup_nil), ordered, ?_, ?_⟩
  · intro name
    rw [filtered, List.mem_filter, Bool.and_eq_true, isSome_concrete?_iff contracts,
      isSome_implementationIn_iff contracts]
  · intro entry member
    obtain ⟨name, -, found⟩ := List.mem_filterMap.mp member
    obtain ⟨-, -, found⟩ := Option.bind_eq_some_iff.mp found
    exact (isExact_of_implementationIn contracts found).2

/-- Below `Token` there are four contracts with an implementation of `send`. That of `Left` and
`Both` is in `Base`, which is ahead of `Right` in the chain of `Both`, and that of `Right` is its
second declaration.
-/
theorem implementations_exact_overloaded
    : let settings := { SettingTables.default.settings with maxChainDepth := .ok (.int 10) }
      ∃ graph,
        ofWorkspace settings overloaded = .ok graph
        ∧ graph.derived "Token" = ["Base", "Left", "Both", "Right", "Other"]
        ∧ ((graph.implementations "Token" "send").map fun entry =>
              (entry.implementer, entry.contract, entry.function.body, entry.isInherited))
            = [("Base", "Base", "\x7b base(); \x7d", false),
               ("Left", "Base", "\x7b base(); \x7d", true),
               ("Both", "Base", "\x7b base(); \x7d", true),
               ("Right", "Right", "\x7b first(); \x7d", false)]
        ∧ ∀ entry ∈ graph.implementations "Token" "send",
            entry.IsExact overloaded graph "send" := by
  intro settings
  have known : settings.maxChainDepth = .ok (.int (10 : Nat)) := rfl
  obtain ⟨graph, built, views⟩ := implementations_exact settings overloaded known
  obtain ⟨-, -, -, exact⟩ := views "Token" "send"
  have same : graph = { contracts := .ofList overloaded.contracts, maxDepth := .int 10 } :=
    Except.ok.inj (built.symm.trans rfl)
  refine ⟨graph, built, ?_, ?_, exact⟩
  · rw [same]
    rfl
  · rw [same]
    rfl

end InheritanceGraph

end SolidityAtlas
