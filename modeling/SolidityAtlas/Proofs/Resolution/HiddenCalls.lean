import SolidityAtlas.Proofs.Outcome
import SolidityAtlas.Proofs.Resolution.CallOrder
import SolidityAtlas.Proofs.Resolution.CallShapes

/-! Which bare calls are listed. Calls to other contracts are told by the line that they stand in,
so a bare call is hidden by a call of a member of the same name in its line. What hides a call is
said here by the parts of the line. All other bare calls are listed, but for built-ins, keywords,
casts and calls of the function itself.
-/

namespace SolidityAtlas

open Outcome Pattern Text Vocabulary

variable {settings : Settings} {function : FunctionDecl} {calls : List CallSite}
  {call : CallSite} {caller : Option String} {number : Int} {line : List Char} {name : String}
  {lead : Pattern}

-----------------------------------------------------------------------------------------
-- Lines that hide calls
-----------------------------------------------------------------------------------------

/-- A line calls a member of a name of a cast to an interface: `IToken(token).name(`. -/
def CallsCastMember (line name : List Char) : Prop :=
  ∃ interface arguments blanks,
    'I' :: (interface ++ '(' :: (arguments ++ ')' :: '.' :: (name ++ (blanks ++ ['('])))) <:+: line
    ∧ IsName Char.isUpper interface
    ∧ ')' ∉ arguments
    ∧ ∀ c ∈ blanks, isSpace c = true

/-- A line calls a member of a name of something that is not capitalised: `pool.name(`. -/
def CallsMember (line name : List Char) : Prop :=
  ∃ owner blanks,
    owner ++ '.' :: (name ++ (blanks ++ ['('])) <:+: line
    ∧ IsName isLowerStart owner
    ∧ ∀ c ∈ blanks, isSpace c = true

/-- A line hides the bare calls of a name: it calls a member of the name, of a cast to an interface,
or of something else while it does not have the name behind `this.`.
-/
def HidesCalls (line name : List Char) : Prop :=
  CallsCastMember line name ∨ CallsMember line name ∧ ¬ "this.".toList ++ name <:+: line

/-- The test for calls of members of casts. -/
theorem callsCastMember_iff
    : callsCastMember name line = true ↔ CallsCastMember line name.toList := by
  have spelled
      : callsCastMember name line = true
        ↔ ∃ letters arguments blanks c,
            'I' :: c :: (letters
              ++ '(' :: (arguments ++ ')' :: '.' :: (name.toList ++ (blanks ++ ['('])))) <:+: line
            ∧ c.isUpper = true
            ∧ (∀ c ∈ letters, isIdentifierPart c = true)
            ∧ (∀ c ∈ arguments, ¬ c = ')')
            ∧ ∀ c ∈ blanks, isSpace c = true := by
    rw [callsCastMember, occursIn_iff_spells (by simp)]
    simp [Pattern.Spells]
  rw [spelled]
  constructor
  · rintro ⟨letters, arguments, blanks, c, inside, capital, plain, closed, blank⟩
    refine ⟨c :: letters, arguments, blanks, inside, ⟨capital, ?_⟩, ?_, blank⟩
    · exact List.forall_mem_cons.mpr ⟨startsNames_isUpper c capital, plain⟩
    · exact fun member => closed ')' member rfl
  · rintro ⟨interface, arguments, blanks, inside, isName, closed, blank⟩
    obtain ⟨c, letters, rfl⟩ := List.exists_cons_of_ne_nil isName.some
    refine ⟨letters, arguments, blanks, c, inside, isName.first, ?_, ?_, blank⟩
    · exact (List.forall_mem_cons.mp isName.plain).2
    · exact fun other member same => closed (same ▸ member)

/-- The test for calls of members of what a pattern spells. -/
theorem callsMember_iff (plain : lead.IsPlain)
    : callsMember lead name line = true
      ↔ ∃ owner blanks,
          owner ++ '.' :: (name.toList ++ (blanks ++ ['('])) <:+: line
          ∧ lead.Spells owner
          ∧ ∀ c ∈ blanks, isSpace c = true := by
  rw [callsMember, occursIn_iff_spells (by simp [plain])]
  simp

/-- The test for calls of members of other contracts: owners of any sort are asked for first, but
names that are not capitalised are owners of this sort.
-/
theorem callsForeignMember_iff
    : callsForeignMember name line = true
      ↔ CallsMember line name.toList ∧ ¬ "this.".toList ++ name.toList <:+: line := by
  have owned : callsMember lowerName name line = true ↔ CallsMember line name.toList := by
    simp only [callsMember_iff plain_lowerName, CallsMember, spells_lowerName]
  have any (calls : CallsMember line name.toList)
      : callsMember (.oneOrMore isWord) name line = true := by
    obtain ⟨owner, blanks, inside, isName, blank⟩ := calls
    exact (callsMember_iff plain_oneOrMore).mpr
      ⟨owner, blanks, inside, spells_oneOrMore.mpr ⟨isName.some, isName.isWord⟩, blank⟩
  have this
      : (Pattern.literal ("this." ++ name)).occursIn line = true
        ↔ "this.".toList ++ name.toList <:+: line := by
    rw [occursIn_iff_spells (plain_literal _)]
    simp
  rw [callsForeignMember, Bool.and_eq_true, Bool.and_eq_true, Bool.not_eq_true', owned,
    Bool.eq_false_iff, ne_eq, this]
  constructor
  · rintro ⟨⟨-, other⟩, calls⟩
    exact ⟨calls, other⟩
  · rintro ⟨calls, other⟩
    exact ⟨⟨any calls, other⟩, calls⟩

-----------------------------------------------------------------------------------------
-- Calls that are left out
-----------------------------------------------------------------------------------------

/-- No interface has a name that is not capitalised. -/
theorem isInterfaceName_of_isName (isName : IsName isLowerStart name.toList)
    : isInterfaceName name = false := by
  have first := isName.first
  rw [isInterfaceName]
  split
  · rename_i split
    rw [split] at first
    cases first
  · rfl

/-- A bare call is left out by its name or because the line hides it. -/
theorem isSkippedCall_iff (isName : IsName isLowerStart name.toList)
    : isSkippedCall name line = true
      ↔ (name ∈ outsideCalls ∨ name ∈ callLikeKeywords ∨ name ∈ castTypes)
        ∨ HidesCalls line name.toList := by
  have noCast : isInterfaceCast name line = false := by
    rw [isInterfaceCast, isInterfaceName_of_isName isName, Bool.false_and]
  simp only [isSkippedCall, HidesCalls, Bool.or_eq_true, List.contains_iff_mem, noCast,
    callsCastMember_iff, callsForeignMember_iff, Bool.false_eq_true, or_false, or_assoc]

/-- A call whose expression has no dot is a bare call. -/
theorem isBare_of_dot_not_mem {patterns : List (String × Pattern)}
    (member : call ∈ callsInLine patterns caller number line)
    (absent : '.' ∉ call.expression.toList)
    : call.IsBare := by
  obtain ⟨⟨key, pattern, found, -, -, rfl⟩, -⟩ := mem_callsInLine_iff.mp member
  rw [isBare_callAt_iff]
  rintro rfl
  exact absent (by simp [callAt])

/-- A line has a bare call of a name among its calls if it has one that is not left out. -/
theorem exists_mem_callsInLine_iff
    : (∃ call ∈ callsInLine callShapes caller number line, call.name = name ∧ call.IsBare)
      ↔ HasBareCall line name.toList
        ∧ caller ≠ some name
        ∧ isSkippedCall name line = false := by
  constructor
  · rintro ⟨call, member, rfl, bare⟩
    obtain ⟨⟨key, pattern, found, shape, matched, rfl⟩, kept⟩ := mem_callsInLine_iff.mp member
    refine ⟨?_, kept⟩
    have direct : found ∈ directCall.findAll line := by
      rw [isBare_callAt_iff] at bare
      simp only [callShapes, List.mem_cons, Prod.mk.injEq, List.not_mem_nil, or_false] at shape
      rcases shape with ⟨rfl, rfl⟩ | ⟨rfl, rfl⟩ | ⟨rfl, rfl⟩
      · exact matched
      · exact absurd rfl bare
      · exact mem_findAll_directCall_of_underscoreCall matched
    obtain ⟨front, name, blanks, rest, split, call, rfl⟩ := mem_findAll_directCall_iff.mp direct
    refine ⟨front, blanks, rest, ?_, ?_⟩
    all_goals rwa [callAt, group_callMatch, String.toList_ofList]
  · rintro ⟨⟨front, blanks, rest, split, call⟩, kept⟩
    have named : (callMatch front name.toList blanks rest).group 1 = name := by
      rw [group_callMatch, String.ofList_toList]
    refine ⟨callAt "direct" number line (callMatch front name.toList blanks rest), ?_, named,
      isBare_callAt_iff.mpr (by decide)⟩
    refine mem_callsInLine_iff.mpr ⟨⟨"direct", directCall, _, List.mem_cons_self, ?_, rfl⟩, ?_⟩
    · exact mem_findAll_directCall_iff.mpr ⟨front, name.toList, blanks, rest, split, call, rfl⟩
    · rwa [callAt, named]

-----------------------------------------------------------------------------------------
-- Bare calls of a function
-----------------------------------------------------------------------------------------

/-- The calls in a function with settings that say whether calls to itself are left out. -/
theorem callsIn_eq_ok {excluded : Bool} (asked : settings.excludeSelfCalls = .ok excluded)
    : callsIn settings function
      = .ok
          (distinctBy CallSite.key
            (callsInLines callShapes (if excluded then some function.name else none)
              function.location.first.line (pieces '\n' function.source.toList))) := by
  rw [callsIn, callsMatching, excludedCaller, asked]
  rfl

/-- Of the calls with one line and expression the first is listed. What is listed with the
expression of a bare call is a bare call of the same name, since no such name has a dot.
-/
theorem exists_mem_distinctBy_callsInLines_iff {lines : List (List Char)} {first : Int}
    {count : Nat} (known : lines[count]? = some line)
    : (∃ call ∈ distinctBy CallSite.key (callsInLines callShapes caller first lines),
        call.name = name ∧ call.expression = name ∧ call.location.first.line = first + count)
      ↔ ∃ call ∈ callsInLine callShapes caller (first + count) line,
          call.name = name ∧ call.IsBare := by
  constructor
  · rintro ⟨call, member, rfl, bare, place⟩
    obtain ⟨other, otherLine, found, inside⟩ :=
      mem_callsInLines_iff.mp (mem_of_mem_distinctBy member)
    rw [line_of_mem_callsInLine inside] at place
    obtain rfl : other = count := by omega
    obtain rfl := Option.some.inj (known.symm.trans found)
    exact ⟨call, inside, rfl, bare⟩
  · rintro ⟨call, inside, rfl, bare⟩
    obtain ⟨⟨front, blanks, rest, -, written⟩, -⟩ :=
      exists_mem_callsInLine_iff.mp ⟨call, inside, rfl, bare⟩
    obtain ⟨kept, member, same⟩
        : ∃ kept ∈ distinctBy CallSite.key (callsInLines callShapes caller first lines),
            kept.key = call.key :=
      exists_mem_distinctBy (mem_callsInLines_iff.mpr ⟨count, line, known, inside⟩)
    obtain ⟨place, expression⟩ := Prod.mk.inj same
    obtain ⟨other, otherLine, -, there⟩ :=
      mem_callsInLines_iff.mp (mem_of_mem_distinctBy member)
    have plain : '.' ∉ kept.expression.toList := by
      rw [expression, bare]
      exact written.name.dot_not_mem
    have named : kept.expression = call.name := expression.trans bare
    refine ⟨kept, member, ?_, named, place.trans (line_of_mem_callsInLine inside)⟩
    exact (isBare_of_dot_not_mem there plain).symm.trans named

/-- With settings that say whether calls to itself are left out, the calls of a function are found,
and for each of its lines a bare call of a name is listed just where the line has one, but for
built-ins, keywords, casts and the function itself, and for the names whose calls the line hides.
-/
theorem callsIn_has_bare_call_iff {excluded : Bool} {count : Nat}
    (asked : settings.excludeSelfCalls = .ok excluded)
    (known : (pieces '\n' function.source.toList)[count]? = some line)
    : ∃ calls,
        callsIn settings function = .ok calls
        ∧ ∀ name,
            (∃ call ∈ calls,
              call.name = name
              ∧ call.expression = name
              ∧ call.location.first.line = function.location.first.line + count)
            ↔ HasBareCall line name.toList
              ∧ ¬ (name ∈ outsideCalls ∨ name ∈ callLikeKeywords ∨ name ∈ castTypes)
              ∧ ¬ (excluded = true ∧ name = function.name)
              ∧ ¬ HidesCalls line name.toList := by
  refine ⟨_, callsIn_eq_ok asked, fun name => ?_⟩
  have foreign
      : (if excluded then some function.name else none) ≠ some name
        ↔ ¬ (excluded = true ∧ name = function.name) := by
    cases excluded <;> simp [eq_comm]
  have shown (has : HasBareCall line name.toList)
      : isSkippedCall name line = false
        ↔ ¬ (name ∈ outsideCalls ∨ name ∈ callLikeKeywords ∨ name ∈ castTypes)
          ∧ ¬ HidesCalls line name.toList := by
    obtain ⟨front, blanks, rest, -, call⟩ := has
    rw [Bool.eq_false_iff, ne_eq, isSkippedCall_iff call.name, not_or]
  rw [exists_mem_distinctBy_callsInLines_iff known, exists_mem_callsInLine_iff, foreign]
  constructor
  · rintro ⟨has, other, kept⟩
    obtain ⟨named, visible⟩ := (shown has).mp kept
    exact ⟨has, named, other, visible⟩
  · rintro ⟨has, named, other, visible⟩
    exact ⟨has, other, (shown has).mpr ⟨named, visible⟩⟩

/-- A function that calls `foo` in two lines, in the first one behind a call of a member `foo`. -/
def hidingFunction : FunctionDecl :=
  { mixedFunction with
    body := "\x7b pool.foo(); foo();\n foo(1); \x7d"
    source := "function f() public \x7b pool.foo(); foo();\n foo(1); \x7d"
    location := ⟨⟨2, 2⟩, ⟨3, 9⟩⟩ }

/-- The line with the two calls. -/
def hidingLine : List Char :=
  "function f() public \x7b pool.foo(); foo();".toList

/-- The call that is listed. -/
def shownCall : CallSite :=
  { name := "foo"
    expression := "foo"
    arguments := ["1"]
    location := ⟨⟨3, 1⟩, ⟨3, 5⟩⟩
    target := none }

/-- The call in the second line is listed: this line has it and does not hide it. -/
theorem callsIn_has_bare_call_iff_hiding
    : SettingTables.default.settings.excludeSelfCalls = .ok true
      ∧ (pieces '\n' hidingFunction.source.toList)[1]? = some " foo(1); \x7d".toList
      ∧ callsIn SettingTables.default.settings hidingFunction = .ok [shownCall]
      ∧ HasBareCall " foo(1); \x7d".toList "foo".toList
      ∧ ¬ HidesCalls " foo(1); \x7d".toList "foo".toList := by
  have asked : SettingTables.default.settings.excludeSelfCalls = .ok true := rfl
  have known : (pieces '\n' hidingFunction.source.toList)[1]? = some " foo(1); \x7d".toList := rfl
  have done : callsIn SettingTables.default.settings hidingFunction = .ok [shownCall] := rfl
  obtain ⟨calls, found, listed⟩ := callsIn_has_bare_call_iff asked known
  obtain rfl := Except.ok.inj (done.symm.trans found)
  obtain ⟨has, -, -, visible⟩ :=
    (listed "foo").mp ⟨shownCall, List.mem_singleton_self _, rfl, rfl, rfl⟩
  exact ⟨asked, known, done, has, visible⟩

/-- A bare call of a name that is neither a built-in, a keyword, a cast nor the function itself need
not be listed: a call of a member of the same name in its line hides it.
-/
theorem bare_call_hidden_by_its_line
    : (pieces '\n' hidingFunction.source.toList)[0]? = some hidingLine
      ∧ HasBareCall hidingLine "foo".toList
      ∧ ¬ ("foo" ∈ outsideCalls ∨ "foo" ∈ callLikeKeywords ∨ "foo" ∈ castTypes)
      ∧ "foo" ≠ hidingFunction.name
      ∧ ∃ calls,
          callsIn SettingTables.default.settings hidingFunction = .ok calls
          ∧ ∀ call ∈ calls,
              call.location.first.line = hidingFunction.location.first.line
              → call.expression ≠ "foo" := by
  refine ⟨rfl, ?_, by decide, by decide, [shownCall], rfl, ?_⟩
  · refine ⟨"function f() public \x7b pool.foo(); ".toList, [], ");".toList, rfl, ?_, ?_, ?_⟩
    · decide
    · simp
    · intro c last
      obtain rfl := Option.some.inj last
      decide
  · intro call member place
    obtain rfl := List.mem_singleton.mp member
    cases place

end SolidityAtlas
