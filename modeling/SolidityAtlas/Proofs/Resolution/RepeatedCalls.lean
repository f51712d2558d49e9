import SolidityAtlas.Proofs.Resolution.HiddenCalls

/-! Calls that are matched more than once. A function lists one call for each line and expression,
so neither a call that is repeated in its line nor one that two shapes match is listed again. The
shape of names that start with an underscore matches nothing that is not a bare call: a table
without it gives the same calls, and it asks the settings in the same functions.
-/

namespace SolidityAtlas

open Outcome Pattern Vocabulary

variable {settings : Settings} {function : FunctionDecl} {lines : List (List Char)}

/-- Without the shape of names that start with an underscore the settings are asked for the same
lines.
-/
theorem excludedCaller_wideCallShapes
    : excludedCaller wideCallShapes settings function lines
      = excludedCaller callShapes settings function lines := by
  have matched (line : List Char)
      : (wideCallShapes.any fun entry => entry.2.occursIn line)
        = callShapes.any fun entry => entry.2.occursIn line := by
    rw [Bool.eq_iff_iff]
    simp only [wideCallShapes, callShapes, List.any_cons, List.any_nil, Bool.or_eq_true,
      Bool.or_false]
    constructor
    · rintro (bare | qualified)
      · exact .inl bare
      · exact .inr (.inl qualified)
    · rintro (bare | qualified | underscore)
      · exact .inl bare
      · exact .inr qualified
      · exact .inl (occursIn_directCall_of_underscoreCall underscore)
  simp only [excludedCaller, matched]

/-- Without the shape of names that start with an underscore a function has the same calls. -/
theorem callsMatching_wideCallShapes
    : callsMatching wideCallShapes settings function = callsIn settings function := by
  simp only [callsIn, callsMatching, excludedCaller_wideCallShapes, distinctBy,
    distinctFrom_callsInLines]

/-- Whatever the settings say about calls of the function itself, the table without the shape of
names that start with an underscore finds the same calls in it, or fails in the same way. Settings
that say it give a list of calls, and no two calls that are listed have both their line and their
expression in common.
-/
theorem callsIn_once_without_underscoreCall (settings : Settings) (function : FunctionDecl)
    : callsMatching (callShapes.filter fun entry => entry.1 ≠ "internal") settings function
        = callsIn settings function
      ∧ (∀ excluded,
          settings.excludeSelfCalls = .ok excluded → Succeeds (callsIn settings function))
      ∧ ∀ calls,
          callsIn settings function = .ok calls
          → calls.Pairwise fun call later =>
              ¬ (call.location.first.line = later.location.first.line
                ∧ call.expression = later.expression) := by
  refine ⟨callsMatching_wideCallShapes, fun excluded asked => ⟨_, callsIn_eq_ok asked⟩, ?_⟩
  intro calls done
  simp only [callsIn, callsMatching, bind_eq_ok_iff, pure_eq_ok_iff] at done
  obtain ⟨caller, -, rfl⟩ := done
  refine (List.pairwise_map.mp (nodup_map_distinctBy CallSite.key _)).imp ?_
  rintro call later different ⟨line, expression⟩
  exact different (Prod.ext line expression)

/-- A function that calls `_a` three times in one line and once in the next one. -/
def repeatingFunction : FunctionDecl :=
  { mixedFunction with
    body := "\x7b _a(1); _a(2); this._a(3);\n _a(4); \x7d"
    source := "function f() public \x7b _a(1); _a(2); this._a(3);\n _a(4); \x7d"
    location := ⟨⟨2, 2⟩, ⟨3, 9⟩⟩ }

/-- The bare calls of a line are listed as one, and so is the call behind `this.`; the table without
the shape of the name finds them too.
-/
theorem callsIn_once_without_underscoreCall_repeating
    : let settings := SettingTables.default.settings
      settings.excludeSelfCalls = .ok true
      ∧ ∃ calls,
          callsIn settings repeatingFunction = .ok calls
          ∧ callsMatching [("direct", directCall), ("this", thisCall)] settings repeatingFunction
            = .ok calls
          ∧ (calls.map fun call => (call.location.first.line, call.expression, call.arguments))
            = [(2, "_a", ["1"]), (2, "this._a", ["3"]), (3, "_a", ["4"])]
          ∧ calls.Pairwise fun call later =>
              ¬ (call.location.first.line = later.location.first.line
                ∧ call.expression = later.expression) := by
  intro settings
  have asked : settings.excludeSelfCalls = .ok true := rfl
  obtain ⟨same, listed, once⟩ := callsIn_once_without_underscoreCall settings repeatingFunction
  obtain ⟨calls, done⟩ := listed true asked
  have shown
      : (calls.map fun call => (call.location.first.line, call.expression, call.arguments))
        = [(2, "_a", ["1"]), (2, "this._a", ["3"]), (3, "_a", ["4"])] := by
    obtain rfl := Except.ok.inj (Eq.trans rfl done)
    rfl
  exact ⟨asked, calls, done, same.trans done, shown, once calls done⟩

end SolidityAtlas
