import SolidityAtlas.Outline.Extract
import SolidityAtlas.Proofs.Outcome
import SolidityAtlas.Proofs.Resolution.CallShapes
import Mathlib.Data.Prod.Lex

/-! The order in which the calls of a function are listed. Lines come one after the other, but each
line is scanned for bare calls first and then for calls behind `this.`, so calls are in the order of
the source just where no line has a bare call behind one of the other sort.
-/

namespace SolidityAtlas

open Outcome Pattern Vocabulary

variable {settings : Settings} {function : FunctionDecl} {calls : List CallSite}
  {call later : CallSite} {caller : Option String} {number first : Int} {line : List Char}
  {lines : List (List Char)}

/-- A call of a name that is not written behind `this.`. -/
def CallSite.IsBare (call : CallSite) : Prop :=
  call.expression = call.name

instance : Decidable call.IsBare :=
  inferInstanceAs (Decidable (call.expression = call.name))

/-- Where a call starts, by line and column. -/
def CallSite.start (call : CallSite) : Int ×ₗ Int :=
  toLex (call.location.first.line, call.location.first.column)

/-- One call is listed before another one: lines come in order, in a line the bare calls come first,
and calls of one sort from left to right.
-/
inductive CallSite.ListedBefore (call later : CallSite) : Prop where
  | line (above : call.location.first.line < later.location.first.line)
  | sort (together : call.location.first.line = later.location.first.line) (bare : call.IsBare)
      (qualified : ¬ later.IsBare)
  | column (together : call.location.first.line = later.location.first.line)
      (same : call.IsBare ↔ later.IsBare)
      (left : call.location.first.column < later.location.first.column)

/-- Bare calls are those that were not matched behind `this.`. -/
theorem isBare_callAt_iff {key : String} {found : Match}
    : (callAt key number line found).IsBare ↔ key ≠ "this" := by
  by_cases this : key = "this"
  · have longer : "this." ++ found.group 1 ≠ found.group 1 := by
      intro same
      simpa using congrArg String.length same
    simp [CallSite.IsBare, callAt, this, longer]
  · simp [CallSite.IsBare, callAt, this]

/-- The calls of one shape in a line are listed from left to right. -/
theorem pairwise_listedBefore_callAt (key : String) (pattern : Pattern)
    : ((pattern.findAll line).map (callAt key number line)).Pairwise CallSite.ListedBefore := by
  rw [List.pairwise_map]
  refine (pairwise_start_findAll pattern line).imp ?_
  intro found other left
  refine .column rfl ?_ (Int.ofNat_lt.mpr left)
  rw [isBare_callAt_iff, isBare_callAt_iff]

/-- The calls in a line are listed by sort and column. -/
theorem pairwise_listedBefore_callsInLine
    : (callsInLine wideCallShapes caller number line).Pairwise CallSite.ListedBefore := by
  refine List.Pairwise.filter _ ?_
  simp only [wideCallShapes, List.flatMap_cons, List.flatMap_nil, List.append_nil]
  refine List.pairwise_append.mpr
    ⟨pairwise_listedBefore_callAt _ _, pairwise_listedBefore_callAt _ _, ?_⟩
  intro bare member qualified memberToo
  obtain ⟨found, -, rfl⟩ := List.mem_map.mp member
  obtain ⟨other, -, rfl⟩ := List.mem_map.mp memberToo
  refine .sort rfl ?_ ?_
  · rw [isBare_callAt_iff]
    decide
  · rw [isBare_callAt_iff]
    decide

/-- The calls in lines are listed line by line, by induction on the lines. -/
theorem pairwise_listedBefore_callsInLines
    : (callsInLines wideCallShapes caller first lines).Pairwise CallSite.ListedBefore := by
  induction lines generalizing first with
  | nil => exact .nil
  | cons line rest ih =>
      refine List.pairwise_append.mpr ⟨pairwise_listedBefore_callsInLine, ih, ?_⟩
      intro call here later below
      obtain ⟨number, other, -, inside⟩ := mem_callsInLines_iff.mp below
      refine .line ?_
      rw [line_of_mem_callsInLine here, line_of_mem_callsInLine inside]
      omega

-----------------------------------------------------------------------------------------
-- Calls of a function
-----------------------------------------------------------------------------------------

/-- The calls in a function are listed line by line and sort by sort. -/
theorem pairwise_listedBefore_of_callsIn (done : callsIn settings function = .ok calls)
    : calls.Pairwise CallSite.ListedBefore := by
  simp only [callsIn, callsMatching, bind_eq_ok_iff, pure_eq_ok_iff] at done
  obtain ⟨caller, -, rfl⟩ := done
  rw [distinctBy, distinctFrom_callsInLines]
  exact pairwise_listedBefore_callsInLines.sublist (distinctFrom_sublist _ _ _)

/-- Calls that resolve are listed like the calls themselves. -/
theorem Workspace.pairwise_listedBefore_of_callsOf {workspace : Workspace}
    {current : Option String} (done : workspace.callsOf settings function current = .ok calls)
    : calls.Pairwise CallSite.ListedBefore := by
  rw [callsOf, bind_eq_ok_iff] at done
  obtain ⟨written, found, resolved⟩ := done
  obtain rfl := pure_eq_ok_iff.mp resolved
  have listed := pairwise_listedBefore_of_callsIn found
  refine listed.filterMap _ ?_
  intro call later before resolved here resolvedLater there
  obtain ⟨target, -, rfl⟩ := Option.map_eq_some_iff.mp here
  obtain ⟨other, -, rfl⟩ := Option.map_eq_some_iff.mp there
  cases before with
  | line above => exact .line above
  | sort together bare qualified => exact .sort together bare qualified
  | column together same left => exact .column together same left

/-- No line has a bare call behind one that is written behind `this.`. -/
def BareCallsFirst (calls : List CallSite) : Prop :=
  ∀ bare ∈ calls, ∀ qualified ∈ calls,
    bare.IsBare → ¬ qualified.IsBare
    → bare.location.first.line = qualified.location.first.line
    → bare.location.first.column ≤ qualified.location.first.column

/-- Of two calls that are listed line by line and sort by sort, a bare one in the same line comes
first.
-/
theorem CallSite.ListedBefore.isBare (before : call.ListedBefore later)
    (together : call.location.first.line = later.location.first.line) (bare : later.IsBare)
    : call.IsBare := by
  cases before with
  | line above => exact absurd together (by omega)
  | sort _ first _ => exact first
  | column _ same _ => exact same.mpr bare

/-- Calls that are listed line by line and sort by sort are in the order in which they start just
where no line has a bare call behind one of the other sort.
-/
theorem pairwise_start_iff (listed : calls.Pairwise CallSite.ListedBefore)
    : calls.Pairwise (fun call later => call.start ≤ later.start) ↔ BareCallsFirst calls := by
  simp only [CallSite.start, Prod.Lex.toLex_le_toLex]
  constructor
  · intro ordered bare member qualified memberToo
    revert bare qualified
    refine List.Pairwise.forall_of_forall_of_flip (fun _ _ _ _ _ => Int.le_refl _) ?_ ?_
    · refine ordered.imp fun before _ _ together => ?_
      rcases before with above | ⟨-, left⟩
      · omega
      · exact left
    · refine listed.imp fun before bare qualified together => ?_
      exact absurd (before.isBare together.symm bare) qualified
  · intro first
    refine listed.imp_of_mem ?_
    intro call later here there before
    cases before with
    | line above => exact .inl above
    | sort together bare qualified =>
        exact .inr ⟨together, first call here later there bare qualified together⟩
    | column together _ left => exact .inr ⟨together, Int.le_of_lt left⟩

/-- The calls in a function, and the calls of a function that resolve in any workspace, seen from
any file, are listed line by line, in each line the bare ones first, and those of one sort from left
to right. So they are in the order in which they start just where no line has a bare call behind one
of the other sort.
-/
theorem calls_listed_by_line_and_sort
    (found
      : callsIn settings function = .ok calls
        ∨ ∃ workspace current,
            Workspace.callsOf workspace settings function current = .ok calls)
    : calls.Pairwise CallSite.ListedBefore
      ∧ (calls.Pairwise (fun call later => call.start ≤ later.start) ↔ BareCallsFirst calls) := by
  have listed : calls.Pairwise CallSite.ListedBefore := by
    rcases found with written | ⟨workspace, current, resolved⟩
    · exact pairwise_listedBefore_of_callsIn written
    · exact Workspace.pairwise_listedBefore_of_callsOf resolved
  exact ⟨listed, pairwise_start_iff listed⟩

/-- A function with two calls in a line, the first of them behind `this.`. -/
def mixedFunction : FunctionDecl :=
  { name := "f"
    visibility := "public"
    mutability := none
    parameters := []
    returns := []
    modifiers := []
    body := "\x7b this.b(); a(); \x7d"
    source := "function f() public \x7b this.b(); a(); \x7d"
    location := ⟨⟨2, 2⟩, ⟨2, 39⟩⟩
    path := "c.sol"
    contract := some "C" }

/-- Its calls as they are listed. -/
def mixedCalls : List CallSite :=
  [{ name := "a"
     expression := "a"
     arguments := []
     location := ⟨⟨2, 32⟩, ⟨2, 34⟩⟩
     target := none },
   { name := "b"
     expression := "this.b"
     arguments := []
     location := ⟨⟨2, 22⟩, ⟨2, 29⟩⟩
     target := none }]

/-- The two calls are listed sort by sort, and the line has a bare call behind the other one. -/
theorem calls_listed_by_line_and_sort_mixed
    : callsIn SettingTables.default.settings mixedFunction = .ok mixedCalls
      ∧ mixedCalls.Pairwise CallSite.ListedBefore
      ∧ ¬ BareCallsFirst mixedCalls := by
  have done : callsIn SettingTables.default.settings mixedFunction = .ok mixedCalls := rfl
  have listed := (calls_listed_by_line_and_sort (.inl done)).1
  refine ⟨done, listed, fun first => ?_⟩
  exact absurd (first _ (.head _) _ (.tail _ (.head _)) rfl (by decide) rfl) (by decide)

/-- The functions that it calls. -/
def mixedTargets : List FunctionDecl :=
  [{ mixedFunction with
     name := "a"
     visibility := "internal"
     body := "\x7b \x7d"
     source := "function a() internal \x7b \x7d"
     location := ⟨⟨3, 2⟩, ⟨3, 26⟩⟩ },
   { mixedFunction with
     name := "b"
     body := "\x7b \x7d"
     source := "function b() public \x7b \x7d"
     location := ⟨⟨4, 2⟩, ⟨4, 24⟩⟩ }]

/-- The file of the three functions. -/
def mixedOutline : FileOutline :=
  { FileOutline.empty "c.sol" with
    contracts :=
      [{ name := "C"
         kind := .contract
         functions := mixedFunction :: mixedTargets
         structs := []
         enums := []
         stateVariables := []
         bases := []
         location := ⟨⟨1, 0⟩, ⟨5, 0⟩⟩
         path := "c.sol" }] }

/-- The calls in a function need not be in the order of the source, nor those that resolve. -/
theorem calls_not_in_source_order
    : ∃ written resolved,
        callsIn SettingTables.default.settings mixedFunction = .ok written
        ∧ Workspace.callsOf (.ofFiles [mixedOutline] []) SettingTables.default.settings
            mixedFunction (some "c.sol")
          = .ok resolved
        ∧ ¬ written.Pairwise (fun call later => call.start ≤ later.start)
        ∧ ¬ resolved.Pairwise (fun call later => call.start ≤ later.start) := by
  let resolved :=
    mixedCalls.zipWith (fun call target => { call with target := some target }) mixedTargets
  refine ⟨mixedCalls, resolved, rfl, rfl, ?_, ?_⟩
  all_goals
    intro ordered
    have apart := (List.pairwise_cons.mp ordered).1 _ (.head _)
    exact absurd apart (by decide)

end SolidityAtlas
