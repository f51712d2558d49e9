import SolidityAtlas.Resolution.VariableTypes
import SolidityAtlas.Proofs.FirstWith
import SolidityAtlas.Proofs.KeyedList
import SolidityAtlas.Proofs.Pattern.Words
import Mathlib.Data.Finset.Max

/-! Which declaration of a variable decides its type. A text is scanned for one form of declaration
after another, and what is found later replaces what was found before. So the last declaration of
the latest form decides, and the last declaration in the text only where no declaration of a later
form stands in front of it. Assignments without a type count for variables without declarations.
-/

namespace SolidityAtlas

open Pattern Text Vocabulary

-----------------------------------------------------------------------------------------
-- Declarations in a text
-----------------------------------------------------------------------------------------

/-- The forms of declarations. -/
inductive DeclarationForm where
  /-- `Pool memory pool` -/
  | plain
  /-- `Pool[] memory pools` -/
  | array
  /-- `mapping(… => Pool) pools` -/
  | mapping
  /-- `Pool pool =` -/
  | initialised
  deriving DecidableEq, Repr

namespace DeclarationForm

/-- The forms in the order in which a text is scanned for them. -/
def all : List DeclarationForm :=
  [.plain, .array, .mapping, .initialised]

/-- The place of a form in this order. -/
def rank : DeclarationForm → Nat
  | .plain => 0
  | .array => 1
  | .mapping => 2
  | .initialised => 3

/-- The pattern of a form, with the type as its first group and the variable as its second one. -/
def pattern : DeclarationForm → Pattern
  | .plain => variableDeclaration
  | .array => arrayDeclaration
  | .mapping => mappingDeclaration
  | .initialised => typedAssignment

end DeclarationForm

/-- A declaration as it is matched in a text: where it starts, and what it says. -/
structure VariableDeclaration where
  form : DeclarationForm
  place : Nat
  name : String
  typeName : String
  deriving DecidableEq, Repr

namespace VariableDeclaration

/-- What a declaration says. -/
def entry (declared : VariableDeclaration) : String × String :=
  (declared.name, declared.typeName)

/-- One declaration is found before another one: by form, and then by place. -/
def FoundBefore (first second : VariableDeclaration) : Prop :=
  first.form.rank < second.form.rank ∨ first.form = second.form ∧ first.place < second.place

instance {first second : VariableDeclaration} : Decidable (first.FoundBefore second) :=
  inferInstanceAs (Decidable (_ ∨ _))

theorem FoundBefore.asymm {first second : VariableDeclaration} (before : first.FoundBefore second)
    : ¬ second.FoundBefore first := by
  rintro (later | ⟨same, behind⟩)
  · rcases before with earlier | ⟨same, -⟩
    · exact Nat.lt_asymm earlier later
    · exact absurd later (by simp [same])
  · rcases before with earlier | ⟨-, inFront⟩
    · exact absurd earlier (by simp [same])
    · exact Nat.lt_asymm inFront behind

/-- The declaration that a match of a form is, if its type and its variable can be what they seem. -/
def ofMatch? (form : DeclarationForm) (found : Match) : Option VariableDeclaration :=
  (typedVariable? 2 1 found).map fun entry => ⟨form, found.start, entry.1, entry.2⟩

end VariableDeclaration

/-- The declarations of a form in a text. -/
def declarationsOf (text : List Char) (form : DeclarationForm) : List VariableDeclaration :=
  (form.pattern.findAll text).filterMap (VariableDeclaration.ofMatch? form)

/-- The declarations in a text, form by form. -/
def declarationsIn (text : List Char) : List VariableDeclaration :=
  DeclarationForm.all.flatMap (declarationsOf text)

variable {text : List Char} {form : DeclarationForm} {name : String} {found : Match}
  {declared first second : VariableDeclaration}

/-- A declaration is a match whose type and variable can be what they seem. -/
theorem ofMatch?_eq_some_iff
    : VariableDeclaration.ofMatch? form found = some declared
      ↔ (isDeclarableType (found.group 1) = true ∧ canNameVariable (found.group 2) = true)
        ∧ declared = ⟨form, found.start, found.group 2, found.group 1⟩ := by
  simp only [VariableDeclaration.ofMatch?, typedVariable?, Option.map_eq_some_iff,
    Option.ite_none_right_eq_some, Bool.and_eq_true, Option.some.injEq]
  constructor
  · rintro ⟨_, ⟨allowed, rfl⟩, rfl⟩
    exact ⟨allowed, rfl⟩
  · rintro ⟨allowed, rfl⟩
    exact ⟨_, ⟨allowed, rfl⟩, rfl⟩

/-- What a form says of variables is what its pattern finds. -/
theorem map_entry_declarationsOf
    : (declarationsOf text form).map (·.entry) = typedVariables form.pattern 2 1 text := by
  rw [declarationsOf, List.map_filterMap, typedVariables]
  refine List.filterMap_congr fun found _ => ?_
  rw [VariableDeclaration.ofMatch?, Option.map_map]
  exact congrFun Option.map_id _

/-- Declarations of one form are found from left to right. -/
theorem pairwise_foundBefore_declarationsOf
    : (declarationsOf text form).Pairwise VariableDeclaration.FoundBefore := by
  refine (pairwise_start_findAll form.pattern text).filterMap _ ?_
  intro found later before one here other there
  obtain ⟨-, rfl⟩ := ofMatch?_eq_some_iff.mp here
  obtain ⟨-, rfl⟩ := ofMatch?_eq_some_iff.mp there
  exact .inr ⟨rfl, before⟩

/-- A declaration of a form is a match of its pattern. -/
theorem exists_match_of_mem_declarationsOf (listed : declared ∈ declarationsOf text form)
    : declared.form = form
      ∧ ∃ found ∈ form.pattern.findAll text,
          found.start = declared.place ∧ found.group 1 = declared.typeName := by
  obtain ⟨found, member, made⟩ := List.mem_filterMap.mp listed
  obtain ⟨-, rfl⟩ := ofMatch?_eq_some_iff.mp made
  exact ⟨rfl, found, member, rfl, rfl⟩

/-- Declarations are found by form and place. -/
theorem pairwise_foundBefore_declarationsIn
    : (declarationsIn text).Pairwise VariableDeclaration.FoundBefore := by
  have forms : DeclarationForm.all.Pairwise fun form later => form.rank < later.rank := by decide
  refine List.pairwise_flatMap.mpr ⟨fun form _ => pairwise_foundBefore_declarationsOf, ?_⟩
  refine forms.imp fun earlier one here other there => .inl ?_
  rwa [(exists_match_of_mem_declarationsOf here).1, (exists_match_of_mem_declarationsOf there).1]

-----------------------------------------------------------------------------------------
-- Types of variables
-----------------------------------------------------------------------------------------

/-- Types that are put one after another: the last one of a variable stays. -/
theorem value?_putTypes (types : OrderedMap String String) (entries : List (String × String))
    : (putTypes types entries).value? name
      = ((entries.reverse.find? fun entry => entry.1 = name).map (·.2)).or (types.value? name) := by
  have put : putTypes types entries = entries.foldl KeyedList.put types := rfl
  rw [OrderedMap.value?, put, KeyedList.get?_foldl_put, Option.map_or]
  rfl

/-- A type that is put only where there is none counts for variables without one. -/
theorem value?_insertNew (types : OrderedMap String String) (variableName typeName : String)
    : (types.insertNew variableName typeName).value? name
      = (types.value? name).or (if variableName = name then some typeName else none) := by
  rw [OrderedMap.insertNew, KeyedList.contains_eq_isSome, OrderedMap.value?, OrderedMap.value?]
  by_cases same : variableName = name
  · subst same
    cases known : types.get? variableName with
    | some old => simp [known]
    | none => simp [KeyedList.get?, KeyedList.put, find?_putItem]
  · rw [if_neg same, Option.or_none]
    split
    · rfl
    · rw [KeyedList.get?_put_of_ne same]

/-- Types that are put where there are none yet: the first one of a variable stays. Induction on the
types.
-/
theorem value?_putNewTypes (types : OrderedMap String String) (entries : List (String × String))
    : (putNewTypes types entries).value? name
      = (types.value? name).or ((entries.find? fun entry => entry.1 = name).map (·.2)) := by
  induction entries generalizing types with
  | nil => simp [putNewTypes]
  | cons entry rest ih =>
      rw [putNewTypes, List.foldl_cons, ← putNewTypes, ih, value?_insertNew, Option.or_assoc,
        List.find?_cons]
      by_cases same : entry.1 = name <;> simp [same]

/-- The type of a variable is that of its last declaration as they are found, or else that of the
first assignment without a type.
-/
theorem value?_variableTypes {source : String} (normal : collapseSpaces false source.toList = text)
    : (variableTypes source).value? name
      = (((declarationsIn text).reverse.find? fun declared => declared.name = name).map
          (·.typeName)).or
          (((typedVariables untypedAssignment 1 2 text).find? fun entry => entry.1 = name).map
            (·.2)) := by
  have entries
      : (declarationsIn text).map (·.entry)
        = typedVariables variableDeclaration 2 1 text ++ typedVariables arrayDeclaration 2 1 text
          ++ typedVariables mappingDeclaration 2 1 text
          ++ typedVariables typedAssignment 2 1 text := by
    simp [declarationsIn, DeclarationForm.all, map_entry_declarationsOf, DeclarationForm.pattern]
  have last
      : ((declarationsIn text).reverse.find? fun declared => declared.name = name).map (·.typeName)
        = (((declarationsIn text).map (·.entry)).reverse.find? fun entry => entry.1 = name).map
            (·.2) := by
    rw [← List.map_reverse, List.find?_map, Option.map_map]
    rfl
  have nothing : (OrderedMap.value? (.empty : OrderedMap String String) name) = none := rfl
  rw [last, entries, List.reverse_append, List.find?_append, Option.map_or, variableTypes, normal,
    value?_putTypes, value?_putNewTypes, value?_putTypes, nothing, Option.or_none, Option.or_assoc]

-----------------------------------------------------------------------------------------
-- Declarations at one place
-----------------------------------------------------------------------------------------

variable {offset : Nat} {patterns : List Pattern}

/-- A declaration in a text is a match of its form that starts at its place. -/
theorem exists_matchAt_of_mem (listed : declared ∈ declarationsIn text)
    : ∃ found,
        declared.form.pattern.matchAt (.atOffset text declared.place) = some found
        ∧ found.group 1 = declared.typeName := by
  obtain ⟨form, -, ofForm⟩ := List.mem_flatMap.mp listed
  obtain ⟨rfl, found, member, place, typed⟩ := exists_match_of_mem_declarationsOf ofForm
  exact ⟨found, place ▸ matchAt_of_mem_findAll member, typed⟩

/-- A type name between a word edge and something that ends words is the word that starts there. -/
theorem group_of_wordEdge (ends : EndsWord (sequence patterns))
    (last : 1 ∉ (sequence patterns).captures)
    (matched
      : (sequence (.wordEdge :: .capture 1 capitalName :: patterns)).matchAt (.atOffset text offset)
        = some found)
    : (text.drop offset).head?.any Char.isUpper = true
      ∧ found.group 1 = String.ofList ((text.drop offset).takeWhile isWord) := by
  obtain ⟨stop, member, rfl⟩ := exists_mem_ways_of_matchAt matched
  obtain ⟨atEdge, onward⟩ := mem_ways_wordEdge_cons.mp member
  obtain ⟨name, rest, captured, ahead, capital, whole, known, spelled⟩ :=
    exists_captured_name startsNames_isUpper (Cursor.standsBehind_atOffset text offset)
      (Cursor.before_of_atWordEdge atEdge) ends last onward
  have behind : text.drop offset = name ++ rest := ahead
  constructor
  · rw [behind, List.head?_append_of_ne_nil _ capital.some]
    exact capital.first
  · rw [behind, whole.takeWhile_eq, Match.group, Match.group?, known, Option.map_some, spelled,
      Option.getD_some]

/-- A declaration that is no mapping starts with its type. -/
theorem group_of_form (other : form ≠ .mapping)
    (matched : form.pattern.matchAt (.atOffset text offset) = some found)
    : (text.drop offset).head?.any Char.isUpper = true
      ∧ found.group 1 = String.ofList ((text.drop offset).takeWhile isWord) := by
  cases form with
  | plain => exact group_of_wordEdge endsWord_gap.sequence_cons (by decide) matched
  | array => exact group_of_wordEdge (endsWord_spaces_char (by decide)) (by decide) matched
  | mapping => exact absurd rfl other
  | initialised => exact group_of_wordEdge endsWord_gap.sequence_cons (by decide) matched

/-- Where another declaration starts no declaration of a mapping does, since it starts with the word
for it.
-/
theorem matchAt_mapping_of_form (other : form ≠ .mapping)
    (matched : form.pattern.matchAt (.atOffset text offset) = some found)
    : mappingDeclaration.matchAt (.atOffset text offset) = none := by
  by_contra mapping
  obtain ⟨both, matchedToo⟩ := Option.ne_none_iff_exists'.mp mapping
  obtain ⟨stop, member, -⟩ := exists_mem_ways_of_matchAt matchedToo
  obtain ⟨mid, reached, -⟩ := mem_ways_sequence_cons.mp member
  have ahead : text.drop offset = "mapping".toList ++ mid.rest :=
    (rest_of_mem_ways_literal reached).1
  have capital := (group_of_form other matched).1
  rw [ahead] at capital
  cases capital

/-- Declarations that start at one place have one type. -/
theorem typeName_eq_of_place_eq (firstListed : first ∈ declarationsIn text)
    (secondListed : second ∈ declarationsIn text) (same : first.place = second.place)
    : first.typeName = second.typeName := by
  obtain ⟨found, matched, typed⟩ := exists_matchAt_of_mem firstListed
  obtain ⟨other, matchedToo, typedToo⟩ := exists_matchAt_of_mem secondListed
  rw [← same] at matchedToo
  rw [← typed, ← typedToo]
  by_cases mapping : first.form = .mapping
  · by_cases mappingToo : second.form = .mapping
    · rw [mappingToo, ← mapping, matched] at matchedToo
      rw [Option.some.inj matchedToo]
    · rw [mapping] at matched
      rw [DeclarationForm.pattern, matchAt_mapping_of_form mappingToo matchedToo] at matched
      cases matched
  · by_cases mappingToo : second.form = .mapping
    · rw [mappingToo] at matchedToo
      rw [DeclarationForm.pattern, matchAt_mapping_of_form mapping matched] at matchedToo
      cases matchedToo
    · rw [(group_of_form mapping matched).2, (group_of_form mappingToo matchedToo).2]

-----------------------------------------------------------------------------------------
-- Deciding declarations
-----------------------------------------------------------------------------------------

/-- The declaration of a variable that is found last. -/
structure FoundLast (text : List Char) (name : String) (declared : VariableDeclaration) : Prop where
  listed : declared ∈ declarationsIn text
  named : declared.name = name
  last
    : ∀ other ∈ declarationsIn text,
        other.name = name → other = declared ∨ other.FoundBefore declared

instance : Decidable (FoundLast text name declared) :=
  decidable_of_iff
    (declared ∈ declarationsIn text ∧ declared.name = name
      ∧ ∀ other ∈ declarationsIn text,
          other.name = name → other = declared ∨ other.FoundBefore declared)
    ⟨fun ⟨listed, named, last⟩ => ⟨listed, named, last⟩,
    fun found => ⟨found.listed, found.named, found.last⟩⟩

/-- A declaration of a variable behind which no other one starts. -/
structure StandsLast (text : List Char) (name : String) (declared : VariableDeclaration) : Prop
    where
  listed : declared ∈ declarationsIn text
  named : declared.name = name
  last : ∀ other ∈ declarationsIn text, other.name = name → other.place ≤ declared.place

instance : Decidable (StandsLast text name declared) :=
  decidable_of_iff
    (declared ∈ declarationsIn text ∧ declared.name = name
      ∧ ∀ other ∈ declarationsIn text, other.name = name → other.place ≤ declared.place)
    ⟨fun ⟨listed, named, last⟩ => ⟨listed, named, last⟩,
    fun stands => ⟨stands.listed, stands.named, stands.last⟩⟩

/-- Only one declaration of a variable is found last. -/
theorem FoundLast.unique (one : FoundLast text name first) (other : FoundLast text name second)
    : first = second := by
  rcases other.last first one.listed one.named with same | before
  · exact same
  · rcases one.last second other.listed other.named with same | after
    · exact same.symm
    · exact absurd after before.asymm

/-- The declaration that is found last gives the type of the one that stands last, or it is of a
later form and stands in front of it.
-/
theorem FoundLast.same_type_or_in_front (found : FoundLast text name first)
    (stands : StandsLast text name second)
    : first.typeName = second.typeName
      ∨ first.place < second.place ∧ second.form.rank < first.form.rank := by
  rcases found.last second stands.listed stands.named with same | later | ⟨-, behind⟩
  · exact .inl (congrArg _ same.symm)
  · rcases (stands.last first found.listed found.named).lt_or_eq with inFront | together
    · exact .inr ⟨inFront, later⟩
    · exact .inl (typeName_eq_of_place_eq found.listed stands.listed together)
  · have notBehind := stands.last first found.listed found.named
    omega

/-- A variable with a declaration has one that stands last. -/
theorem exists_standsLast (some : ∃ declared ∈ declarationsIn text, declared.name = name)
    : ∃ declared, StandsLast text name declared := by
  obtain ⟨declared, listed, named⟩ := some
  let own := (declarationsIn text).toFinset.filter fun other => other.name = name
  have given : own.Nonempty := ⟨declared, by simp [own, listed, named]⟩
  obtain ⟨last, member, most⟩ := own.exists_max_image (·.place) given
  simp only [own, Finset.mem_filter, List.mem_toFinset] at member most
  exact ⟨last, member.1, member.2, fun other listed named => most other ⟨listed, named⟩⟩

/-- A variable with a declaration has one that is found last. -/
theorem exists_foundLast (some : ∃ declared ∈ declarationsIn text, declared.name = name)
    : ∃ declared,
        FoundLast text name declared
        ∧ (declarationsIn text).reverse.find? (fun declared => declared.name = name)
          = .some declared := by
  obtain ⟨declared, found⟩
      : ∃ declared, (declarationsIn text).reverse.find? (fun declared => declared.name = name)
          = .some declared := by
    refine Option.isSome_iff_exists.mp (List.find?_isSome.mpr ?_)
    simpa using some
  have first := (find?_eq_some_iff_firstWith fun _ => decide_eq_true_iff).mp found
  refine ⟨declared, ⟨List.mem_reverse.mp first.mem, first.has, ?_⟩, found⟩
  intro other listed named
  have ordered
      : (declarationsIn text).reverse.Pairwise fun later earlier => earlier.FoundBefore later :=
    List.pairwise_reverse.mpr pairwise_foundBefore_declarationsIn
  exact first.eq_or_rel ordered (List.mem_reverse.mpr listed) named

/-- The declaration that is found last decides. -/
theorem value?_of_foundLast {source : String}
    (normal : collapseSpaces false source.toList = text) (found : FoundLast text name declared)
    : (variableTypes source).value? name = some declared.typeName := by
  obtain ⟨last, foundToo, search⟩ := exists_foundLast ⟨declared, found.listed, found.named⟩
  rw [value?_variableTypes normal, search, found.unique foundToo, Option.map_some, Option.some_or]

/-- Without a declaration the first assignment without a type decides. -/
theorem value?_of_undeclared {source : String}
    (normal : collapseSpaces false source.toList = text)
    (undeclared : ¬ ∃ declared ∈ declarationsIn text, declared.name = name)
    : (variableTypes source).value? name
      = ((typedVariables untypedAssignment 1 2 text).find? fun entry => entry.1 = name).map (·.2)
    := by
  have nothing
      : (declarationsIn text).reverse.find? (fun declared => declared.name = name) = none := by
    simpa using undeclared
  rw [value?_variableTypes normal, nothing, Option.map_none, Option.none_or]

/-- The type of a variable is that of the declaration that is found last, where declarations count by
form and then by place; without a declaration it is the type of the first assignment. Declarations
that start at one place have one type, and the declaration that stands last in the text gives the
type of the variable exactly when it has the same type as the one that is found last. It does where
no declaration of a later form stands in front of it.
-/
theorem variableTypes_by_form_and_place (source name : String)
    : let text := collapseSpaces false source.toList
      let typed := (variableTypes source).value? name
      ((¬ ∃ declared ∈ declarationsIn text, declared.name = name)
        → typed
          = ((typedVariables untypedAssignment 1 2 text).find? fun entry => entry.1 = name).map
              (·.2))
      ∧ ((∃ declared ∈ declarationsIn text, declared.name = name)
        → (∃ found, FoundLast text name found) ∧ ∃ last, StandsLast text name last)
      ∧ (∀ found, FoundLast text name found → typed = some found.typeName)
      ∧ (∀ first ∈ declarationsIn text, ∀ second ∈ declarationsIn text,
          first.place = second.place → first.typeName = second.typeName)
      ∧ ∀ last,
          StandsLast text name last
          → (typed = some last.typeName
              ↔ ∀ found, FoundLast text name found → found.typeName = last.typeName)
            ∧ ((∀ other ∈ declarationsIn text,
                  other.name = name
                  → other.place < last.place
                  → other.form.rank ≤ last.form.rank)
              → typed = some last.typeName) := by
  intro text typed
  have decides (found : VariableDeclaration) (foundLast : FoundLast text name found)
      : typed = some found.typeName :=
    value?_of_foundLast rfl foundLast
  refine ⟨value?_of_undeclared rfl, ?_, decides, ?_, ?_⟩
  · intro some
    obtain ⟨found, last, -⟩ := exists_foundLast some
    exact ⟨⟨found, last⟩, exists_standsLast some⟩
  · exact fun first listed second listedToo => typeName_eq_of_place_eq listed listedToo
  · intro last stands
    obtain ⟨found, foundLast, -⟩ := exists_foundLast ⟨last, stands.listed, stands.named⟩
    rw [decides found foundLast, Option.some.injEq]
    refine ⟨⟨?_, fun all => all found foundLast⟩, ?_⟩
    · intro same other otherLast
      rw [← same, otherLast.unique foundLast]
    · intro inOrder
      rcases foundLast.same_type_or_in_front stands with same | ⟨inFront, later⟩
      · exact same
      · have early := inOrder found foundLast.listed foundLast.named inFront
        omega

/-- A source that declares `items` with two types, the later one without an initial value, and
`vault` with two types, the later one with an initial value. It only assigns `rate`.
-/
def vaultSource : String :=
  "Pool[] items; Bank items; Bank vault; Pool vault = f(); rate = Feed(x);"

/-- The array decides for `items`, although another declaration stands last; the last declaration
decides for `vault`, and the assignment for `rate`.
-/
theorem variableTypes_by_form_and_place_vault
    : let text := collapseSpaces false vaultSource.toList
      let items : VariableDeclaration := ⟨.array, 0, "items", "Pool"⟩
      let lastItems : VariableDeclaration := ⟨.plain, 14, "items", "Bank"⟩
      let vault : VariableDeclaration := ⟨.initialised, 38, "vault", "Pool"⟩
      (FoundLast text "items" items ∧ StandsLast text "items" lastItems)
      ∧ (variableTypes vaultSource).value? "items" = some "Pool"
      ∧ (variableTypes vaultSource).value? "items" ≠ some lastItems.typeName
      ∧ (StandsLast text "vault" vault
        ∧ ∀ other ∈ declarationsIn text,
            other.name = "vault" → other.place < vault.place → other.form.rank ≤ vault.form.rank)
      ∧ (variableTypes vaultSource).value? "vault" = some "Pool"
      ∧ (¬ ∃ declared ∈ declarationsIn text, declared.name = "rate")
      ∧ (variableTypes vaultSource).value? "rate" = some "Feed" := by
  intro text items lastItems vault
  obtain ⟨-, -, itemsDecided, -, itemsLast⟩ := variableTypes_by_form_and_place vaultSource "items"
  obtain ⟨-, -, -, -, vaultLast⟩ := variableTypes_by_form_and_place vaultSource "vault"
  obtain ⟨rateAssigned, -⟩ := variableTypes_by_form_and_place vaultSource "rate"
  have foundItems : FoundLast text "items" items := by decide
  have standsItems : StandsLast text "items" lastItems := by decide
  have standsVault : StandsLast text "vault" vault := by decide
  have inOrder
      : ∀ other ∈ declarationsIn text,
          other.name = "vault" → other.place < vault.place → other.form.rank ≤ vault.form.rank := by
    decide
  have unknown : ¬ ∃ declared ∈ declarationsIn text, declared.name = "rate" := by decide
  have differ : ¬ ((variableTypes vaultSource).value? "items" = some lastItems.typeName) := by
    rw [(itemsLast lastItems standsItems).1]
    exact fun same => absurd (same items foundItems) (by decide)
  refine ⟨⟨foundItems, standsItems⟩, itemsDecided items foundItems, differ,
    ⟨standsVault, inOrder⟩, (vaultLast vault standsVault).2 inOrder, unknown, ?_⟩
  rw [rateAssigned unknown]
  decide

/-- The declaration that stands last does not decide where a declaration of a later form stands in
front of it.
-/
theorem variableTypes_not_by_place
    : ∃ source name last,
        StandsLast (collapseSpaces false source.toList) name last
        ∧ (variableTypes source).value? name ≠ some last.typeName := by
  refine ⟨"Pool[] items; Bank items;", "items", ⟨.plain, 14, "items", "Bank"⟩, ?_, ?_⟩
  all_goals decide

end SolidityAtlas
