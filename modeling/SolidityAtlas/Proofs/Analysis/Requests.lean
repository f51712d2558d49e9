import SolidityAtlas.Analysis.Analyzer
import SolidityAtlas.Proofs.KeyedList
import SolidityAtlas.Proofs.Outcome

/-! Runs of requests to one analyzer. What the analyzer remembers is what it would find anew, so
every answer and every failure is that of an analyzer that remembers nothing. A lookup that was made
before is answered by the result that was stored then, which stays where it is.
-/

namespace SolidityAtlas.Analyzer

open Outcome

/-- A request to an analyzer. The kind of a lookup may be any value. -/
inductive Request where
  | lookup (kind : Json) (name : String) (contract : Option String)
  | lookupVariable (name : String) (function : FunctionDecl)
  | analyze (path : String) (line column : Int)
  | analyzeFunction (function : FunctionDecl) (path : Option String)
  | findImplementations (base method : String)

/-- What an analyzer answers. -/
inductive Answer where
  | symbol (answer : LookupAnswer)
  | analysis (analysis : Analysis)
  | implementations (found : List Implementation)

/-- The lookup that a request comes down to, if it comes down to one. -/
def Request.key? : Request → Option LookupRequest
  | .lookup kind name contract =>
      match LookupKind.ofJson kind with
      | .ok kind => some { kind := kind, name := name, contract := contract }
      | .error _ => none
  | .lookupVariable name function =>
      ((variableTypes function.source).value? name).map fun typeName =>
        { kind := .type, name := typeName, contract := function.contract }
  | .analyze .. | .analyzeFunction .. | .findImplementations .. => none

/-- The answer to a request and the analyzer after it. A request that fails changes nothing. -/
def respond (settings : Settings) (analyzer : Analyzer) : Request → Outcome Answer × Analyzer
  | .lookup kind name contract =>
      match LookupKind.ofJson kind with
      | .error failure => (.error failure, analyzer)
      | .ok kind =>
          let (answer, next) := analyzer.lookup { kind := kind, name := name, contract := contract }
          (.ok (.symbol answer), next)
  | .lookupVariable name function =>
      let (answer, next) := analyzer.lookupVariable name function
      (.ok (.symbol answer), next)
  | .analyze path line column =>
      ((analyzer.workspace.analysisAt settings path line column).map .analysis, analyzer)
  | .analyzeFunction function path =>
      ((analyzer.workspace.analysisOf settings function path).map .analysis, analyzer)
  | .findImplementations base method =>
      match analyzer.inheritance settings with
      | .error failure => (.error failure, analyzer)
      | .ok (graph, next) => (.ok (.implementations (graph.implementations base method)), next)

/-- The answers to requests one after the other and the analyzer after all of them. -/
def run (settings : Settings) (analyzer : Analyzer)
    : List Request → List (Outcome Answer) × Analyzer
  | [] => ([], analyzer)
  | request :: rest =>
      let first := analyzer.respond settings request
      let later := run settings first.2 rest
      (first.1 :: later.1, later.2)

-----------------------------------------------------------------------------------------
-- Stored lookups
-----------------------------------------------------------------------------------------

/-- A result is stored for a lookup, at a place among the remembered ones. -/
def Stores (analyzer : Analyzer) (place : Nat) (key : LookupRequest) (result : Finding) : Prop :=
  analyzer.lookups.items[place]? = some (key, result)

/-- All that one analyzer has stored the other one has stored at the same places. -/
def Extends (later earlier : Analyzer) : Prop :=
  earlier.lookups.items <+: later.lookups.items

variable {settings : Settings} {workspace : Workspace} {analyzer later : Analyzer}
  {request : Request} {key : LookupRequest} {place : Nat} {result : Finding}

/-- What is stored stays stored where it is. -/
theorem Stores.extend (stored : analyzer.Stores place key result)
    (extended : later.Extends analyzer)
    : later.Stores place key result := by
  obtain ⟨more, entries⟩ := extended
  have inFront : place < analyzer.lookups.items.length := (List.getElem?_eq_some_iff.mp stored).1
  rw [Stores, ← entries, List.getElem?_append_left inFront]
  exact stored

/-- A lookup with a stored result is answered by it, and nothing changes. -/
theorem Stores.lookup (stored : analyzer.Stores place key result)
    : analyzer.lookup key = ({ result := result, remembered := some key }, analyzer) := by
  have found : analyzer.lookups.get? key = some (key, result) :=
    KeyedList.get?_eq_some_iff.mpr ⟨List.mem_of_getElem? stored, rfl⟩
  rw [Analyzer.lookup, OrderedMap.value?, found]
  rfl

/-- A lookup either has a stored result, or its result is stored behind all others. -/
theorem stores_or_lookup (analyzer : Analyzer) (key : LookupRequest)
    : (∃ place result, analyzer.Stores place key result)
      ∨ ∃ entries,
          analyzer.lookup key
            = ({ result := analyzer.workspace.lookup key, remembered := some key },
                { analyzer with lookups := entries })
          ∧ entries.items = analyzer.lookups.items ++ [(key, analyzer.workspace.lookup key)] := by
  cases known : analyzer.lookups.get? key with
  | some stored =>
      obtain ⟨member, rfl⟩ := KeyedList.get?_eq_some_iff.mp known
      obtain ⟨place, entry⟩ := List.mem_iff_getElem?.mp member
      exact .inl ⟨place, stored.2, entry⟩
  | none =>
      have unknown : key ∉ analyzer.lookups.keys := KeyedList.get?_eq_none_iff.mp known
      refine .inr ⟨analyzer.lookups.insert key (analyzer.workspace.lookup key), ?_, ?_⟩
      · rw [lookup, OrderedMap.value?, known]
        rfl
      · exact putItem_of_new unknown

/-- After a lookup its answer is stored. -/
theorem exists_stores_lookup (analyzer : Analyzer) (key : LookupRequest)
    : ∃ place result,
        (analyzer.lookup key).1 = { result := result, remembered := some key }
        ∧ (analyzer.lookup key).2.Stores place key result := by
  rcases analyzer.stores_or_lookup key with ⟨place, result, stored⟩ | ⟨entries, new, items⟩
  · rw [stored.lookup]
    exact ⟨place, result, rfl, stored⟩
  · rw [new]
    refine ⟨analyzer.lookups.items.length, analyzer.workspace.lookup key, rfl, ?_⟩
    rw [Stores, items]
    exact List.getElem?_concat_length

/-- A lookup keeps what is stored. -/
theorem extends_lookup (analyzer : Analyzer) (key : LookupRequest)
    : (analyzer.lookup key).2.Extends analyzer := by
  rcases analyzer.stores_or_lookup key with ⟨place, result, stored⟩ | ⟨entries, new, items⟩
  · rw [stored.lookup]
    exact List.prefix_rfl
  · rw [new, Extends, items]
    exact List.prefix_append _ _

/-- A request that comes down to a lookup is answered by it. -/
theorem respond_of_key? (known : request.key? = some key)
    : analyzer.respond settings request
      = (.ok (.symbol (analyzer.lookup key).1), (analyzer.lookup key).2) := by
  cases request with
  | lookup kind name contract =>
      rw [Request.key?] at known
      rw [respond]
      cases read : LookupKind.ofJson kind with
      | error failure =>
          rw [read] at known
          cases known
      | ok kind =>
          rw [read] at known
          obtain rfl := Option.some.inj known
          rfl
  | lookupVariable name function =>
      obtain ⟨typeName, declared, rfl⟩ := Option.map_eq_some_iff.mp known
      rw [respond, lookupVariable, declared]
  | analyze | analyzeFunction | findImplementations => cases known

-----------------------------------------------------------------------------------------
-- Analyzers that remember what they would find
-----------------------------------------------------------------------------------------

/-- What an analyzer remembers is what it would find in its workspace. -/
structure Remembers (settings : Settings) (workspace : Workspace) (analyzer : Analyzer) : Prop where
  same : analyzer.workspace = workspace
  lookups : ∀ key result, (key, result) ∈ analyzer.lookups.items → result = workspace.lookup key
  graph
    : ∀ graph, analyzer.graph = some graph
      → InheritanceGraph.ofWorkspace settings workspace = .ok graph

/-- A new analyzer remembers nothing. -/
theorem remembers_ofWorkspace : Remembers settings workspace (.ofWorkspace workspace) := by
  refine ⟨rfl, ?_, ?_⟩
  · intro key result member
    cases member
  · intro graph known
    cases known

/-- A lookup is answered as the workspace answers it, and the answer is remembered. -/
theorem Remembers.lookup (remembers : Remembers settings workspace analyzer) (key : LookupRequest)
    : (analyzer.lookup key).1 = { result := workspace.lookup key, remembered := some key }
      ∧ Remembers settings workspace (analyzer.lookup key).2 := by
  obtain ⟨rfl, lookups, graph⟩ := remembers
  rcases analyzer.stores_or_lookup key with ⟨place, result, stored⟩ | ⟨entries, new, items⟩
  · obtain rfl := lookups key result (List.mem_of_getElem? stored)
    rw [stored.lookup]
    exact ⟨rfl, rfl, lookups, graph⟩
  · rw [new]
    refine ⟨rfl, rfl, ?_, graph⟩
    intro other result member
    rw [items, List.mem_append, List.mem_singleton] at member
    rcases member with before | last
    · exact lookups other result before
    · obtain ⟨rfl, rfl⟩ := Prod.mk.inj last
      rfl

/-- The inheritance graph is that of the workspace, and it is remembered. -/
theorem Remembers.inheritance (remembers : Remembers settings workspace analyzer)
    : ∃ next, Remembers settings workspace next
        ∧ next.Extends analyzer
        ∧ analyzer.inheritance settings
          = (InheritanceGraph.ofWorkspace settings workspace).map fun graph => (graph, next) := by
  obtain ⟨rfl, lookups, graphs⟩ := remembers
  cases known : analyzer.graph with
  | some graph =>
      refine ⟨analyzer, ⟨rfl, lookups, graphs⟩, List.prefix_rfl, ?_⟩
      rw [Analyzer.inheritance, known, graphs graph known]
      rfl
  | none =>
      rw [Analyzer.inheritance, known]
      cases built : InheritanceGraph.ofWorkspace settings analyzer.workspace with
      | error failure => exact ⟨analyzer, ⟨rfl, lookups, graphs⟩, List.prefix_rfl, rfl⟩
      | ok graph =>
          refine ⟨{ analyzer with graph := some graph }, ⟨rfl, lookups, ?_⟩, List.prefix_rfl, rfl⟩
          intro other stored
          rw [← Option.some.inj stored, built]

/-- A request is answered as by an analyzer that remembers nothing. Also where it fails, it leaves
the analyzer remembering what it would find, with all entries from before.
-/
theorem Remembers.respond (remembers : Remembers settings workspace analyzer) (request : Request)
    : (analyzer.respond settings request).1
        = ((ofWorkspace workspace).respond settings request).1
      ∧ Remembers settings workspace (analyzer.respond settings request).2
      ∧ (analyzer.respond settings request).2.Extends analyzer := by
  have new : Remembers settings workspace (.ofWorkspace workspace) := remembers_ofWorkspace
  -- Whatever comes down to a lookup is settled by it; the other requests read the workspace or the
  -- graph.
  cases known : request.key? with
  | some key =>
      obtain ⟨answer, after⟩ := remembers.lookup key
      rw [respond_of_key? known, respond_of_key? known, answer, (new.lookup key).1]
      exact ⟨rfl, after, extends_lookup analyzer key⟩
  | none =>
      cases request with
      | lookup kind name contract =>
          cases read : LookupKind.ofJson kind with
          | error failure =>
              rw [Analyzer.respond, Analyzer.respond, read]
              exact ⟨rfl, remembers, List.prefix_rfl⟩
          | ok kind => simp [Request.key?, read] at known
      | lookupVariable name function =>
          have undeclared := Option.map_eq_none_iff.mp known
          rw [Analyzer.respond, Analyzer.respond, lookupVariable, lookupVariable, undeclared]
          exact ⟨rfl, remembers, List.prefix_rfl⟩
      | analyze path line column =>
          rw [Analyzer.respond, Analyzer.respond, remembers.same]
          exact ⟨rfl, remembers, List.prefix_rfl⟩
      | analyzeFunction function path =>
          rw [Analyzer.respond, Analyzer.respond, remembers.same]
          exact ⟨rfl, remembers, List.prefix_rfl⟩
      | findImplementations base method =>
          obtain ⟨next, after, kept, graph⟩ := remembers.inheritance
          obtain ⟨newNext, -, -, newGraph⟩ := new.inheritance
          rw [Analyzer.respond, Analyzer.respond, graph, newGraph]
          cases InheritanceGraph.ofWorkspace settings workspace with
          | error failure => exact ⟨rfl, remembers, List.prefix_rfl⟩
          | ok built => exact ⟨rfl, after, kept⟩

-----------------------------------------------------------------------------------------
-- Runs
-----------------------------------------------------------------------------------------

/-- All requests of a run are answered as by an analyzer that remembers nothing, and no entry is
lost. Induction on the requests; what is remembered is right after each of them.
-/
theorem Remembers.run (remembers : Remembers settings workspace analyzer) (requests : List Request)
    : (analyzer.run settings requests).1
        = requests.map (fun request => ((ofWorkspace workspace).respond settings request).1)
      ∧ Remembers settings workspace (analyzer.run settings requests).2
      ∧ (analyzer.run settings requests).2.Extends analyzer := by
  induction requests generalizing analyzer with
  | nil => exact ⟨rfl, remembers, List.prefix_rfl⟩
  | cons request rest ih =>
      obtain ⟨answer, next, kept⟩ := remembers.respond request
      obtain ⟨answers, final, keptLater⟩ := ih next
      exact ⟨congrArg₂ List.cons answer answers, final, kept.trans keptLater⟩

/-- A run goes on where the run before it ended. -/
theorem run_append (analyzer : Analyzer) (before after : List Request)
    : (analyzer.run settings (before ++ after)).2
      = ((analyzer.run settings before).2.run settings after).2 := by
  induction before generalizing analyzer with
  | nil => rfl
  | cons request rest ih => exact ih _

/-- In any run of requests to one analyzer each answer and each failure is what a new analyzer gives
to that request alone. When two requests of a run come down to the same lookup, the second one is
answered by the result that was stored for the first one, and changes nothing.
-/
theorem run_answers (settings : Settings) (workspace : Workspace)
    : (∀ requests,
        ((ofWorkspace workspace).run settings requests).1
        = requests.map fun request => ((ofWorkspace workspace).respond settings request).1)
      ∧ ∀ before first between second key,
        first.key? = some key → second.key? = some key
        → let analyzer := ((ofWorkspace workspace).run settings before).2
          let beforeSecond :=
            ((ofWorkspace workspace).run settings (before ++ first :: between)).2
          ∃ place result,
            (analyzer.respond settings first).1
              = .ok (.symbol { result := result, remembered := some key })
            ∧ (analyzer.respond settings first).2.Stores place key result
            ∧ beforeSecond.Stores place key result
            ∧ beforeSecond.respond settings second
              = (.ok (.symbol { result := result, remembered := some key }), beforeSecond) := by
  have new : Remembers settings workspace (.ofWorkspace workspace) := remembers_ofWorkspace
  refine ⟨fun requests => (new.run requests).1, ?_⟩
  intro before first between second key firstKey secondKey analyzer beforeSecond
  have remembers : Remembers settings workspace (analyzer.respond settings first).2 :=
    ((new.run before).2.1.respond first).2.1
  have sameRun : beforeSecond = ((analyzer.respond settings first).2.run settings between).2 :=
    run_append _ before _
  obtain ⟨place, result, answer, stored⟩ := exists_stores_lookup analyzer key
  have kept : beforeSecond.Stores place key result := by
    rw [sameRun]
    refine Stores.extend ?_ (remembers.run between).2.2
    rwa [respond_of_key? firstKey]
  refine ⟨place, result, ?_, ?_, kept, ?_⟩
  · rw [respond_of_key? firstKey, answer]
  · rwa [respond_of_key? firstKey]
  · rw [respond_of_key? secondKey, kept.lookup]

/-- A function with a variable of an enum type. -/
def selectFunction : FunctionDecl :=
  { name := "select"
    visibility := "public"
    mutability := none
    parameters := []
    returns := []
    modifiers := []
    body := "\x7b Mode mode = Mode.Fast; \x7d"
    source := "function select() public \x7b Mode mode = Mode.Fast; \x7d"
    location := ⟨⟨2, 0⟩, ⟨2, 51⟩⟩
    path := "modes.sol"
    contract := none }

/-- A file with the enum and the function. -/
def modesOutline : FileOutline :=
  { path := "modes.sol"
    contracts := []
    imports := []
    pragmas := []
    structs := []
    enums :=
      [{ name := "Mode"
         members := ["Fast", "Safe"]
         source := "enum Mode \x7b Fast, Safe \x7d"
         location := ⟨⟨1, 0⟩, ⟨1, 25⟩⟩
         path := "modes.sol"
         contract := none }]
    functions := [selectFunction] }

/-- The type of a variable is looked up, a lookup of an unknown kind fails, implementations are
asked for, and then the type is looked up by its name.
-/
theorem run_answers_modes
    : let workspace := Workspace.ofFiles [modesOutline] []
      let settings := SettingTables.default.settings
      let key : LookupRequest := { kind := .type, name := "Mode", contract := none }
      let first : Request := .lookupVariable "mode" selectFunction
      let between : List Request :=
        [.lookup (.str "contract") "Mode" none, .findImplementations "Mode" "select"]
      let second : Request := .lookup (.str "type") "Mode" none
      let beforeSecond := ((ofWorkspace workspace).run settings (first :: between)).2
      first.key? = some key
      ∧ second.key? = some key
      ∧ (workspace.lookup key).success = true
      ∧ ∃ place result,
          ((ofWorkspace workspace).respond settings first).1
            = .ok (.symbol { result := result, remembered := some key })
          ∧ beforeSecond.Stores place key result
          ∧ beforeSecond.respond settings second
            = (.ok (.symbol { result := result, remembered := some key }), beforeSecond) := by
  intro workspace settings key first between second beforeSecond
  have firstKey : first.key? = some key := rfl
  have secondKey : second.key? = some key := rfl
  have found : (workspace.lookup key).success = true := by decide
  obtain ⟨place, result, answer, -, stored, repeated⟩ :=
    (run_answers settings workspace).2 [] first between second key firstKey secondKey
  exact ⟨firstKey, secondKey, found, place, result, answer, stored, repeated⟩

end SolidityAtlas.Analyzer
