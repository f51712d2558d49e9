import SolidityAtlas.Proofs.Outline.Extraction

/-! The syntax trees that outlines are made of. Every property that is read has a form: text, an
integer, a list of nodes of a form. A source unit is readable when the properties of its
declarations have theirs, and this is exactly when it has an outline.
-/

namespace SolidityAtlas

open Outcome Checked

-----------------------------------------------------------------------------------------
-- Forms of values
-----------------------------------------------------------------------------------------

namespace Json

/-- A value is text. -/
def IsText (value : Json) : Prop :=
  ∃ text, value = .str text

/-- A value is text, or null for none. -/
def IsTextOrNull (value : Json) : Prop :=
  value = .null ∨ value.IsText

/-- A value is text, or counts as nothing and is replaced by text. -/
def IsTextOrNothing (value : Json) : Prop :=
  value.isNothing = true ∨ value.IsText

/-- A value stands for an integer. -/
def IsInteger (value : Json) : Prop :=
  ∃ number, Reader.integer value = .valid number

/-- A value is the bound of a range of offsets. -/
def IsBound : Json → Prop
  | .int _ | .bool _ => True
  | .null | .double _ | .str _ | .arr _ | .obj _ => False

/-- A value lists something, or nothing: all but truth and numbers other than zero. -/
def IsList : Json → Prop
  | .bool value => value = false
  | .int value => value = 0
  | .double value => value.isZero = true
  | .null | .str _ | .arr _ | .obj _ => True

/-- What a value lists. -/
def elements : Json → List Json
  | .arr items => items
  | .str text => text.toList.map fun c => .str (String.ofList [c])
  | .obj fields => fields.map fun field => .str field.1
  | .null | .bool _ | .int _ | .double _ => []

/-- A value lists values of a form only. -/
def Lists (value : Json) (form : Json → Prop) : Prop :=
  value.IsList ∧ ∀ item ∈ value.elements, form item

end Json

variable {source path name text : String} {node value : Json} {form : Json → Prop}

/-- A list is read as what it lists. -/
theorem listed_eq_ok_iff {items : List Json}
    : listed value = .ok items ↔ value.IsList ∧ value.elements = items := by
  cases value with
  | null => simp [listed, Json.isNothing, Json.IsList, Json.elements]
  | bool value => cases value <;> simp [listed, Json.isNothing, Json.IsList, Json.elements]
  | int value => by_cases zero : value = 0 <;>
      simp [listed, Json.isNothing, Json.IsList, Json.elements, zero]
  | double value => cases zero : value.isZero <;>
      simp [listed, Json.isNothing, Json.IsList, Json.elements, zero]
  | str text => by_cases empty : text = "" <;>
      simp [listed, Json.isNothing, Json.IsList, Json.elements, empty]
  | arr items => cases items <;> simp [listed, Json.isNothing, Json.IsList, Json.elements]
  | obj fields => cases fields <;> simp [listed, Json.isNothing, Json.IsList, Json.elements]

/-- A string field passes when its value is text. -/
theorem isValid_string_iff : (checkedField name Reader.string value).IsValid ↔ value.IsText := by
  rw [checkedField, isValid_inside_iff]
  cases value <;> simp [IsValid, Reader.string, Checked.fault, Json.IsText]

/-- An optional string field passes when its value is text or null. -/
theorem isValid_optional_iff
    : (checkedField name (Reader.optional Reader.string) value).IsValid ↔ value.IsTextOrNull := by
  rw [checkedField, isValid_inside_iff]
  cases value <;>
    simp [IsValid, Reader.optional, Reader.string, Checked.fault, Json.IsTextOrNull, Json.IsText,
      Functor.map, Checked.map]

/-- A list of strings passes when every item is text. -/
theorem isValid_checkedStrings_iff {values : List Json}
    : (checkedStrings name values).IsValid ↔ ∀ item ∈ values, item.IsText := by
  rw [checkedStrings, isValid_inside_iff, isValid_items_iff]
  refine forall₂_congr fun item _ => ?_
  cases item <;> simp [IsValid, Reader.string, Checked.fault, Json.IsText]

/-- A value with a text to replace it is text when it is text or counts as nothing. -/
theorem isText_orElse_iff : (value.orElse (.str text)).IsText ↔ value.IsTextOrNothing := by
  rw [Json.orElse, Json.IsTextOrNothing]
  split
  · rename_i nothing
    simp [nothing, Json.IsText]
  · rename_i something
    simp [something]

/-- The name of a contract is text or null. -/
theorem isTextOrNull_ofOption (owner : Option String) : (Json.ofOption owner).IsTextOrNull := by
  cases owner with
  | none => exact .inl rfl
  | some text => exact .inr ⟨text, rfl⟩

-----------------------------------------------------------------------------------------
-- Forms of nodes
-----------------------------------------------------------------------------------------

/-- A type that is written as a name has text for it. -/
structure TypeForm (node : Json) : Prop where
  elementary : kindOf node = some "ElementaryTypeName" → (node.field "name").IsTextOrNothing
  userDefined
    : kindOf node = some "UserDefinedTypeName" → (node.field "namePath").IsTextOrNothing

/-- Something has a name and a type. -/
structure TypedForm (node : Json) : Prop where
  isObject : node.isObject = true
  name : (node.field "name").IsTextOrNothing
  type : TypeForm (node.field "typeName")

/-- A parameter has a name, a type and, if any, a data location. -/
structure ParameterForm (node : Json) : Prop extends TypedForm node where
  storage : (node.field "storageLocation").IsTextOrNull

/-- One variable of a declaration has a name, a type and, if any, a visibility. -/
structure VariableForm (node : Json) : Prop extends TypedForm node where
  visibility : (node.field "visibility").IsTextOrNothing

/-- A modifier has text for its name, if it has one. -/
structure ModifierForm (node : Json) : Prop where
  isObject : node.isObject = true
  name : ∀ name, node.field? "name" = some name → name.IsText

/-- A member of an enum has a name. -/
structure EnumMemberForm (node : Json) : Prop where
  isObject : node.isObject = true
  name : (node.field "name").IsTextOrNothing

/-- One end of a span has integers for its line and column, if it has both. -/
def EndForm (node : Json) (name : String) : Prop :=
  ∀ line column, endOf? (node.field "loc") name = some (line, column)
    → line.IsInteger ∧ column.IsInteger

/-- The span of a node has two ends of their form, or it counts as none. -/
structure SpanForm (node : Json) : Prop where
  first : EndForm node "start"
  last : (endOf? (node.field "loc") "start").isSome → EndForm node "end"

/-- A span is cut out of a number of lines: it has lines there at both ends, or it starts before the
first line or ends behind the last one. Lines up to the first one count from the end.
-/
def Location.IsCutFrom (lines : Nat) (span : Location) : Prop :=
  span.first.line < 1 ∨ lines < span.last.line
    ∨ span.first.line ≤ lines ∧ 1 - (lines : Int) ≤ span.last.line

/-- A node says where its text is: by the bounds of a range, or else by a span, if it has one. -/
structure ExcerptForm (source : String) (node : Json) : Prop where
  range
    : ∀ first last, node.field "range" = .arr [first, last]
      → last.IsBound ∧ (first = .null ∨ first.IsBound)
  span
    : (∀ first last, node.field "range" ≠ .arr [first, last])
      → SpanForm node
        ∧ ∀ span, locationOf node = .ok (some span)
          → span.IsCutFrom (Text.pieces '\n' source.toList).length

/-- A function has lists of parameters and modifiers, a text, also for its body, a span and a name.
-/
structure FunctionForm (source : String) (node : Json) : Prop where
  parameters : (node.field "parameters").Lists ParameterForm
  returns : (node.field "returnParameters").Lists ParameterForm
  modifiers : (node.field "modifiers").Lists ModifierForm
  body : (node.field "body").isObject = true → ExcerptForm source (node.field "body")
  text : ExcerptForm source node
  span : SpanForm node
  name : (functionName node).IsText
  visibility : (node.field "visibility").IsTextOrNothing
  mutability : (node.field "stateMutability").IsTextOrNull

/-- A struct has a list of members, a text, a span and a name. -/
structure StructForm (source : String) (node : Json) : Prop where
  members : (node.field "members").Lists TypedForm
  text : ExcerptForm source node
  span : SpanForm node
  name : (node.field "name").IsTextOrNothing

/-- An enum has a list of members, a text, a span and a name. -/
structure EnumForm (source : String) (node : Json) : Prop where
  members : (node.field "members").Lists EnumMemberForm
  text : ExcerptForm source node
  span : SpanForm node
  name : (node.field "name").IsTextOrNothing

/-- A declaration of state variables has a text, a span and a list of variables. -/
structure VariablesForm (source : String) (node : Json) : Prop where
  text : ExcerptForm source node
  span : SpanForm node
  declared : (node.field "variables").Lists VariableForm

/-- The specifier of a base contract has a name for it, if it has one. -/
structure BaseForm (specifier : Json) : Prop where
  isObject : specifier.isObject = true
  name
    : (specifier.field "baseName").isNothing = true
      ∨ (specifier.field "baseName").isObject = true
        ∧ ((specifier.field "baseName").field "namePath").IsTextOrNothing

/-- A part of a contract has the form of its kind; parts of other kinds are passed over. -/
@[mk_iff]
structure PartForm (source : String) (part : Json) : Prop where
  function : kindOf part = some "FunctionDefinition" → FunctionForm source part
  struct : kindOf part = some "StructDefinition" → StructForm source part
  enum : kindOf part = some "EnumDefinition" → EnumForm source part
  stateVariables : kindOf part = some "StateVariableDeclaration" → VariablesForm source part

/-- A contract has a name, lists of parts and of specifiers of its bases, and a span. -/
structure ContractForm (source : String) (node : Json) : Prop where
  name : (node.field "name").IsTextOrNothing
  parts : (node.field "subNodes").Lists (PartForm source)
  bases : (node.field "baseContracts").Lists BaseForm
  span : SpanForm node

/-- An import has a path, and text for every symbol that it names. -/
structure ImportForm (node : Json) : Prop where
  path : (node.field "path").IsTextOrNothing
  symbols
    : (node.field "symbolAliases").Lists fun item =>
        ∀ symbol, importedSymbol? item = some symbol → symbol.IsText

/-- A top-level node has the form of its kind; nodes of other kinds are passed over. -/
@[mk_iff]
structure TopLevelForm (source : String) (node : Json) : Prop where
  contract : kindOf node = some "ContractDefinition" → ContractForm source node
  directive : kindOf node = some "ImportDirective" → ImportForm node
  struct : kindOf node = some "StructDefinition" → StructForm source node
  enum : kindOf node = some "EnumDefinition" → EnumForm source node
  function : kindOf node = some "FunctionDefinition" → FunctionForm source node

/-- A source unit is readable when all its top-level nodes have their form. -/
def IsReadable (source : String) (tree : Json) : Prop :=
  (tree.field "children").Lists (TopLevelForm source)

-----------------------------------------------------------------------------------------
-- Parts of declarations
-----------------------------------------------------------------------------------------

/-- A list is worked through by what it lists. -/
theorem succeeds_listed_bind_iff {α : Type} {next : List Json → Outcome α}
    : Succeeds (listed value >>= next) ↔ value.IsList ∧ Succeeds (next value.elements) := by
  simp only [succeeds_bind_iff, listed_eq_ok_iff, and_assoc, exists_and_left, exists_eq_left']

/-- The name of a type node of a kind is text, unless the kind is that of a name and this one is
none.
-/
theorem isText_renderType_iff {kind : String} {parts : List (String × Json)}
    : (renderType kind node parts).IsText
      ↔ (kind = "ElementaryTypeName" → (node.field "name").IsTextOrNothing)
        ∧ (kind = "UserDefinedTypeName" → (node.field "namePath").IsTextOrNothing) := by
  unfold renderType
  split
  · simp [isText_orElse_iff]
  · simp [isText_orElse_iff]
  · simp [Json.IsText]
  · simp [Json.IsText]
  · simp [Json.IsText]
  · rename_i elementary userDefined _ _ _
    exact iff_of_true ⟨"", rfl⟩
      ⟨fun same => (elementary same).elim, fun same => (userDefined same).elim⟩

/-- The name of a type is text exactly when its node has the form. -/
theorem isText_typeText_iff : (typeText node).IsText ↔ TypeForm node := by
  have unnamed (none : kindOf node = none) : TypeForm node := by
    constructor <;> simp [none]
  cases node with
  | obj fields =>
      rw [typeText]
      cases found : kindOf (.obj fields) with
      | none => exact iff_of_true ⟨"", rfl⟩ (unnamed found)
      | some kind =>
          rw [isText_renderType_iff]
          constructor
          · rintro ⟨elementary, userDefined⟩
            constructor
            · rwa [found, Option.some.injEq]
            · rwa [found, Option.some.injEq]
          · rintro ⟨elementary, userDefined⟩
            rw [found, Option.some.injEq] at elementary userDefined
            exact ⟨elementary, userDefined⟩
  | null | bool _ | int _ | double _ | str _ | arr _ => exact iff_of_true ⟨"", rfl⟩ (unnamed rfl)

/-- A member of a struct is read exactly when it has a name and a type. -/
theorem succeeds_extractMember_iff : Succeeds (extractMember node) ↔ TypedForm node := by
  simp only [extractMember, succeeds_bind_iff, propertyOr_eq_ok_iff, property_eq_ok_iff,
    succeeds_outcome_iff, isValid_seq_iff, isValid_map_iff, isValid_string_iff, and_assoc,
    exists_and_left, exists_eq_left', isText_orElse_iff, isText_typeText_iff]
  constructor
  · rintro ⟨isObject, -, name, type⟩
    exact ⟨isObject, name, type⟩
  · rintro ⟨isObject, name, type⟩
    exact ⟨isObject, isObject, name, type⟩

/-- A parameter is read exactly when it has its form. -/
theorem succeeds_extractParameter_iff : Succeeds (extractParameter node) ↔ ParameterForm node := by
  simp only [extractParameter, succeeds_bind_iff, propertyOr_eq_ok_iff, property_eq_ok_iff,
    succeeds_outcome_iff, isValid_seq_iff, isValid_map_iff, isValid_string_iff,
    isValid_optional_iff, and_assoc, exists_and_left, exists_eq_left', isText_orElse_iff,
    isText_typeText_iff]
  constructor
  · rintro ⟨isObject, -, -, name, type, storage⟩
    exact ⟨⟨isObject, name, type⟩, storage⟩
  · rintro ⟨⟨isObject, name, type⟩, storage⟩
    exact ⟨isObject, isObject, isObject, name, type, storage⟩

/-- One variable of a declaration in a contract is read exactly when it has its form. -/
theorem succeeds_extractStateVariable_iff {location : Location} {owner : String}
    : Succeeds (extractStateVariable path text location (.str owner) node) ↔ VariableForm node := by
  have owned : (Json.str owner).IsText := ⟨owner, rfl⟩
  simp only [extractStateVariable, succeeds_bind_iff, propertyOr_eq_ok_iff, property_eq_ok_iff,
    succeeds_outcome_iff, isValid_seq_iff, isValid_map_iff, isValid_string_iff, isValid_pure,
    owned, and_true, and_assoc, exists_and_left, exists_eq_left', isText_orElse_iff,
    isText_typeText_iff]
  constructor
  · rintro ⟨isObject, -, -, name, type, visibility⟩
    exact ⟨⟨isObject, name, type⟩, visibility⟩
  · rintro ⟨⟨isObject, name, type⟩, visibility⟩
    exact ⟨isObject, isObject, isObject, name, type, visibility⟩

-----------------------------------------------------------------------------------------
-- Spans and excerpts
-----------------------------------------------------------------------------------------

/-- A position is made exactly when its line and column are integers. -/
theorem succeeds_positionOf_iff {line column : Json}
    : Succeeds (positionOf line column) ↔ line.IsInteger ∧ column.IsInteger := by
  simp only [positionOf, succeeds_outcome_iff, isValid_seq_iff, isValid_map_iff,
    isValid_inside_iff]
  exact Iff.rfl

/-- An end that has a line and a column is of its form when they are integers. -/
theorem endForm_iff {line column : Json}
    (found : endOf? (node.field "loc") name = some (line, column))
    : EndForm node name ↔ line.IsInteger ∧ column.IsInteger := by
  rw [EndForm, found]
  constructor
  · intro form
    exact form line column rfl
  · rintro ⟨integerLine, integerColumn⟩ _ _ same
    cases same
    exact ⟨integerLine, integerColumn⟩

/-- An end without a line or a column is of its form. -/
theorem endForm_of_none (missing : endOf? (node.field "loc") name = none) : EndForm node name := by
  intro line column found
  rw [missing] at found
  cases found

/-- The span of a node is read exactly when it has its form. -/
theorem succeeds_locationOf_iff : Succeeds (locationOf node) ↔ SpanForm node := by
  rw [locationOf]
  cases start : endOf? (node.field "loc") "start" with
  | none => exact iff_of_true (succeeds_ok none) ⟨endForm_of_none start, by simp [start]⟩
  | some first =>
      refine (succeeds_bind_iff_and fun position _ =>
        (?_ : Succeeds _ ↔ EndForm node "end")).trans ?_
      · cases stop : endOf? (node.field "loc") "end" with
        | none => exact iff_of_true (succeeds_ok none) (endForm_of_none stop)
        | some last =>
            rw [endForm_iff stop, ← succeeds_positionOf_iff]
            exact succeeds_bind_iff_of fun position _ => succeeds_ok _
      · rw [succeeds_positionOf_iff, ← endForm_iff start]
        constructor
        · rintro ⟨first, last⟩
          exact ⟨first, fun _ => last⟩
        · rintro ⟨first, last⟩
          exact ⟨first, last (by simp [start])⟩

/-- The span of a declaration is read exactly when it has its form. -/
theorem succeeds_declaredAt_iff : Succeeds (declaredAt node) ↔ SpanForm node := by
  rw [← succeeds_locationOf_iff]
  exact succeeds_bind_iff_of fun span _ => succeeds_ok _

/-- A bound is read exactly when it is one. -/
theorem succeeds_bound?_iff : Succeeds (bound? value) ↔ value.IsBound := by
  cases value with
  | int _ | bool _ => exact iff_of_true (succeeds_ok _) trivial
  | null | double _ | str _ | arr _ | obj _ => exact iff_of_false (not_succeeds_error _) id

/-- The first bound may be left open. -/
theorem succeeds_firstBound?_iff
    : Succeeds (firstBound? value) ↔ value = .null ∨ value.IsBound := by
  cases value with
  | null => exact iff_of_true (succeeds_ok _) (.inl rfl)
  | int _ | bool _ | double _ | str _ | arr _ | obj _ =>
      simp [firstBound?, succeeds_bound?_iff]

/-- A line is there from the first one to the last, or counted from the end. -/
theorem succeeds_lineAt_iff {lines : List (List Char)} {index : Int}
    : Succeeds (lineAt lines index) ↔ -(lines.length : Int) ≤ index ∧ index < lines.length := by
  have found : Succeeds (lineAt lines index) ↔ (Text.signedGet? lines index).isSome := by
    rw [lineAt]
    cases Text.signedGet? lines index with
    | none => exact iff_of_false (not_succeeds_error _) (by simp)
    | some line => exact iff_of_true (succeeds_ok _) rfl
  rw [found, Text.signedGet?]
  split
  · rw [isSome_getElem?]
    omega
  · split
    · rw [isSome_getElem?]
      omega
    · simp
      omega

/-- The text of a span is cut out exactly when the lines at its ends are there. -/
theorem succeeds_spanText_iff {lines : List (List Char)} {span : Location}
    : Succeeds (spanText lines span) ↔ span.IsCutFrom lines.length := by
  unfold spanText
  dsimp only
  split
  · rename_i outside
    refine iff_of_true (succeeds_ok _) ?_
    unfold Location.IsCutFrom
    omega
  · rename_i inside
    split
    · rename_i oneLine
      refine (succeeds_bind_iff_of fun line _ => succeeds_ok _).trans ?_
      rw [succeeds_lineAt_iff, Location.IsCutFrom]
      omega
    · refine (succeeds_bind_iff_and fun line _ => succeeds_bind_iff_of fun line _ =>
        succeeds_ok _).trans ?_
      rw [succeeds_lineAt_iff, succeeds_lineAt_iff, Location.IsCutFrom]
      omega

/-- The text of a node is read exactly when the node says where it is. -/
theorem succeeds_excerpt_iff : Succeeds (excerpt source node) ↔ ExcerptForm source node := by
  unfold excerpt
  split
  · rename_i first last range
    have bounds : Succeeds (rangeText source.toList first last)
        ↔ last.IsBound ∧ (first = .null ∨ first.IsBound) := by
      refine (succeeds_bind_iff_and fun _ _ => succeeds_bind_iff_of fun _ _ =>
        succeeds_ok _).trans ?_
      rw [succeeds_bound?_iff, succeeds_firstBound?_iff]
    rw [succeeds_map_iff, bounds]
    constructor
    · intro bounded
      refine ⟨?_, fun unranged => absurd range (unranged first last)⟩
      intro _ _ same
      rw [range] at same
      cases same
      exact bounded
    · intro form
      exact form.range first last range
  · rename_i unranged
    rw [succeeds_bind_iff]
    constructor
    · rintro ⟨span, located, cut⟩
      refine ⟨fun first last range => (unranged first last range).elim, fun _ => ?_⟩
      refine ⟨succeeds_locationOf_iff.mp ⟨span, located⟩, ?_⟩
      intro place same
      rw [located] at same
      obtain rfl := Except.ok.inj same
      exact succeeds_spanText_iff.mp ((succeeds_bind_iff_of fun _ _ => succeeds_ok _).mp cut)
    · intro form
      obtain ⟨spanned, cut⟩ := form.span fun first last range => unranged first last range
      obtain ⟨span, located⟩ := succeeds_locationOf_iff.mpr spanned
      refine ⟨span, located, ?_⟩
      cases span with
      | none => exact succeeds_ok _
      | some place =>
          have lines := succeeds_spanText_iff.mpr (cut place located)
          exact (succeeds_bind_iff_of fun _ _ => succeeds_ok _).mpr lines

-----------------------------------------------------------------------------------------
-- Declarations
-----------------------------------------------------------------------------------------

/-- Parameters are read exactly when all of them have their form. -/
theorem succeeds_extractParameters_iff
    : Succeeds (extractParameters node name) ↔ (node.field name).Lists ParameterForm := by
  simp only [extractParameters, succeeds_listed_bind_iff, succeeds_mapM_iff,
    succeeds_extractParameter_iff, Json.Lists]

/-- The name of a modifier is read as text exactly when the modifier has its form. -/
theorem exists_propertyIfPresent_iff
    : (∃ found, propertyIfPresent node "name" = .ok found ∧ found.IsText) ↔ ModifierForm node := by
  rw [propertyIfPresent]
  split
  · rename_i isObject
    have text
        : ((node.field? "name").getD (.str "")).IsText
          ↔ ∀ name, node.field? "name" = some name → name.IsText := by
      cases node.field? "name" <;> simp [Json.IsText]
    simp only [Except.ok.injEq, exists_eq_left', text]
    exact ⟨fun name => ⟨isObject, name⟩, ModifierForm.name⟩
  · rename_i noObject
    refine iff_of_false ?_ fun form => noObject form.isObject
    rintro ⟨found, failed, -⟩
    cases failed

/-- The body of a function is only read where it is a node. -/
theorem succeeds_body_iff
    : Succeeds (if value.isObject = true then excerpt source value else pure "")
      ↔ (value.isObject = true → ExcerptForm source value) := by
  split
  · rename_i isObject
    rw [succeeds_excerpt_iff]
    simp [isObject]
  · rename_i noObject
    exact iff_of_true (succeeds_ok "") fun isObject => absurd isObject noObject

/-- A function is read exactly when it has its form. -/
theorem succeeds_extractFunction_iff {owner : Option String}
    : Succeeds (extractFunction source path (.ofOption owner) node) ↔ FunctionForm source node := by
  simp only [extractFunction, ite_bind_eq, succeeds_bind_iff, listed_eq_ok_iff,
    succeeds_outcome_iff, isValid_seq_iff, isValid_map_iff, isValid_pure, isValid_string_iff,
    isValid_optional_iff, isValid_checkedStrings_iff, isTextOrNull_ofOption, isText_orElse_iff,
    and_true, and_assoc, exists_and_left, exists_and_right, exists_eq_left']
  constructor
  · rintro ⟨parameters, returns, list, names, read, rest⟩
    obtain ⟨body, text, span, name, visibility, mutability, named⟩ := rest
    have modifiers := exists_mapM_iff.mp ⟨names, read, named⟩
    exact {
      parameters := succeeds_extractParameters_iff.mp parameters
      returns := succeeds_extractParameters_iff.mp returns
      modifiers :=
        ⟨list, fun item member => exists_propertyIfPresent_iff.mp (modifiers item member)⟩
      body := succeeds_body_iff.mp body
      text := succeeds_excerpt_iff.mp text
      span := succeeds_declaredAt_iff.mp span
      name := name
      visibility := visibility
      mutability := mutability
    }
  · intro form
    obtain ⟨list, modifiers⟩ := form.modifiers
    obtain ⟨names, read, named⟩ := exists_mapM_iff.mpr fun item member =>
      exists_propertyIfPresent_iff.mpr (modifiers item member)
    exact ⟨succeeds_extractParameters_iff.mpr form.parameters,
      succeeds_extractParameters_iff.mpr form.returns, list, names, read,
      succeeds_body_iff.mpr form.body, succeeds_excerpt_iff.mpr form.text,
      succeeds_declaredAt_iff.mpr form.span, form.name, form.visibility, form.mutability, named⟩

/-- A struct is read exactly when it has its form. -/
theorem succeeds_extractStruct_iff {owner : Option String}
    : Succeeds (extractStruct source path (.ofOption owner) node) ↔ StructForm source node := by
  simp only [extractStruct, succeeds_bind_iff, listed_eq_ok_iff, succeeds_outcome_iff,
    isValid_seq_iff, isValid_map_iff, isValid_pure, isValid_string_iff, isValid_optional_iff,
    isTextOrNull_ofOption, isText_orElse_iff, and_true, and_assoc, exists_and_left,
    exists_and_right, exists_eq_left']
  constructor
  · rintro ⟨list, members, text, span, name⟩
    have typed := succeeds_mapM_iff.mp members
    exact {
      members := ⟨list, fun item member => succeeds_extractMember_iff.mp (typed item member)⟩
      text := succeeds_excerpt_iff.mp text
      span := succeeds_declaredAt_iff.mp span
      name := name
    }
  · intro form
    obtain ⟨list, members⟩ := form.members
    have read := succeeds_mapM_iff.mpr fun item member =>
      succeeds_extractMember_iff.mpr (members item member)
    exact ⟨list, read, succeeds_excerpt_iff.mpr form.text, succeeds_declaredAt_iff.mpr form.span,
      form.name⟩

/-- The name of a member is read as text exactly when the member has its form. -/
theorem exists_propertyOr_iff
    : (∃ found, propertyOr node "name" "" = .ok found ∧ found.IsText) ↔ EnumMemberForm node := by
  simp only [propertyOr_eq_ok_iff, and_assoc, exists_and_left, exists_eq_left', isText_orElse_iff]
  exact ⟨fun ⟨isObject, name⟩ => ⟨isObject, name⟩, fun ⟨isObject, name⟩ => ⟨isObject, name⟩⟩

/-- An enum is read exactly when it has its form. -/
theorem succeeds_extractEnum_iff {owner : Option String}
    : Succeeds (extractEnum source path (.ofOption owner) node) ↔ EnumForm source node := by
  simp only [extractEnum, succeeds_bind_iff, listed_eq_ok_iff, succeeds_outcome_iff,
    isValid_seq_iff, isValid_map_iff, isValid_pure, isValid_string_iff, isValid_optional_iff,
    isValid_checkedStrings_iff, isTextOrNull_ofOption, isText_orElse_iff, and_true, and_assoc,
    exists_and_left, exists_and_right, exists_eq_left']
  constructor
  · rintro ⟨list, names, read, text, span, name, named⟩
    have members := exists_mapM_iff.mp ⟨names, read, named⟩
    exact {
      members := ⟨list, fun item member => exists_propertyOr_iff.mp (members item member)⟩
      text := succeeds_excerpt_iff.mp text
      span := succeeds_declaredAt_iff.mp span
      name := name
    }
  · intro form
    obtain ⟨list, members⟩ := form.members
    obtain ⟨names, read, named⟩ :=
      exists_mapM_iff.mpr fun item member => exists_propertyOr_iff.mpr (members item member)
    exact ⟨list, names, read, succeeds_excerpt_iff.mpr form.text,
      succeeds_declaredAt_iff.mpr form.span, form.name, named⟩

/-- A declaration of state variables is read exactly when it has its form. -/
theorem succeeds_extractStateVariables_iff {owner : String}
    : Succeeds (extractStateVariables source path (.str owner) node)
      ↔ VariablesForm source node := by
  simp only [extractStateVariables, succeeds_bind_iff, listed_eq_ok_iff, succeeds_mapM_iff,
    succeeds_extractStateVariable_iff, and_assoc, exists_and_left, exists_and_right,
    exists_eq_left']
  constructor
  · rintro ⟨text, span, declared⟩
    exact ⟨succeeds_excerpt_iff.mp text, succeeds_declaredAt_iff.mp span, declared⟩
  · rintro ⟨text, span, declared⟩
    exact ⟨succeeds_excerpt_iff.mpr text, succeeds_declaredAt_iff.mpr span, declared⟩

/-- What is kept of items is text exactly when it is for each of them. -/
theorem forall_mem_filterMap_iff {α : Type} {keep : α → Option Json} {items : List α}
    : (∀ kept ∈ items.filterMap keep, kept.IsText)
      ↔ ∀ item ∈ items, ∀ kept, keep item = some kept → kept.IsText := by
  simp only [List.mem_filterMap]
  exact ⟨fun each item member kept same => each kept ⟨item, member, same⟩,
    fun each kept ⟨item, member, same⟩ => each item member kept same⟩

/-- An import is read exactly when it has its form. -/
theorem succeeds_extractImport_iff : Succeeds (extractImport path node) ↔ ImportForm node := by
  rw [extractImport]
  split
  · rename_i imported given
    have named : (node.field "path").IsTextOrNothing := isText_orElse_iff.mp ⟨imported, given⟩
    simp only [succeeds_bind_iff, listed_eq_ok_iff, succeeds_outcome_iff, isValid_seq_iff,
      isValid_map_iff, isValid_pure, isValid_checkedStrings_iff, forall_mem_filterMap_iff,
      true_and, and_assoc, exists_and_left, exists_eq_left']
    exact ⟨fun symbols => ⟨named, symbols⟩, ImportForm.symbols⟩
  · rename_i noText
    refine iff_of_false (not_succeeds_error _) fun form => ?_
    obtain ⟨text, same⟩ := isText_orElse_iff.mpr form.path
    exact noText text same

/-- A value that is kept unless it counts as nothing is kept as text exactly when it is text. -/
theorem forall_kept_iff
    : (∀ kept, (if value.isNothing = true then none else some value) = some kept → kept.IsText)
      ↔ value.IsTextOrNothing := by
  rw [Json.IsTextOrNothing]
  split <;> simp [*]

/-- The name of a base contract is read exactly when its specifier has the form. -/
theorem exists_extractBase_iff
    : (∃ found, extractBase node = .ok found ∧ ∀ name, found = some name → name.IsText)
      ↔ BaseForm node := by
  simp only [extractBase, bind_eq_ok_iff, property_eq_ok_iff, and_assoc, exists_and_left,
    exists_eq_left']
  by_cases nothing : (node.field "baseName").isNothing = true
  · simp only [nothing, if_true, pure_eq_ok_iff, exists_eq_left', reduceCtorEq, false_implies,
      implies_true, and_true]
    exact ⟨fun isObject => ⟨isObject, .inl nothing⟩, BaseForm.isObject⟩
  · simp only [nothing, Bool.false_eq_true, if_false, bind_eq_ok_iff, property_eq_ok_iff,
      pure_eq_ok_iff, and_assoc, exists_and_left, exists_eq_left', forall_kept_iff]
    constructor
    · rintro ⟨isObject, named⟩
      exact ⟨isObject, .inr named⟩
    · intro form
      exact ⟨form.isObject, form.name.resolve_left nothing⟩

/-- A part is added to a contract exactly when it has the form of its kind. -/
theorem succeeds_addContractPart_iff {owner : String} {parts : ContractParts}
    : Succeeds (addContractPart source path (.str owner) parts node) ↔ PartForm source node := by
  unfold addContractPart
  split
  · rename_i kind
    refine (succeeds_bind_iff_of fun _ _ => succeeds_ok _).trans ?_
    rw [partForm_iff, ← Json.ofOption, succeeds_extractFunction_iff]
    simp [kind]
  · rename_i kind
    refine (succeeds_bind_iff_of fun _ _ => succeeds_ok _).trans ?_
    rw [partForm_iff, ← Json.ofOption, succeeds_extractStruct_iff]
    simp [kind]
  · rename_i kind
    refine (succeeds_bind_iff_of fun _ _ => succeeds_ok _).trans ?_
    rw [partForm_iff, ← Json.ofOption, succeeds_extractEnum_iff]
    simp [kind]
  · rename_i kind
    refine (succeeds_bind_iff_of fun _ _ => succeeds_ok _).trans ?_
    rw [partForm_iff, succeeds_extractStateVariables_iff]
    simp [kind]
  · rename_i noFunction noStruct noEnum noVariables
    refine iff_of_true (succeeds_ok _) ⟨?_, ?_, ?_, ?_⟩
    · exact fun kind => (noFunction kind).elim
    · exact fun kind => (noStruct kind).elim
    · exact fun kind => (noEnum kind).elim
    · exact fun kind => (noVariables kind).elim

/-- A contract is read exactly when it has its form. -/
theorem succeeds_extractContract_iff
    : Succeeds (extractContract source path node) ↔ ContractForm source node := by
  simp only [extractContract, succeeds_bind_iff, listed_eq_ok_iff, succeeds_outcome_iff,
    isValid_seq_iff, isValid_map_iff, isValid_pure, isValid_string_iff, isText_orElse_iff,
    isValid_checkedStrings_iff, forall_mem_filterMap_iff, id_eq, and_true, and_assoc,
    exists_and_left, exists_and_right, exists_eq_left']
  -- parts are read with the name of their contract, which is text in either direction
  have parts (owner : String) (items : List Json)
      : Succeeds (items.foldlM (addContractPart source path (.str owner)) {})
        ↔ ∀ item ∈ items, PartForm source item := by
    refine succeeds_foldlM_iff (fun parts part _ => ?_) _
    exact succeeds_addContractPart_iff
  constructor
  · rintro ⟨list, collected, baseList, names, read, span, name, named⟩
    obtain ⟨owner, given⟩ := isText_orElse_iff.mpr name
    rw [given] at collected
    have bases := exists_mapM_iff.mp ⟨names, read, named⟩
    exact {
      name := name
      parts := ⟨list, (parts owner _).mp collected⟩
      bases := ⟨baseList, fun item member => exists_extractBase_iff.mp (bases item member)⟩
      span := succeeds_declaredAt_iff.mp span
    }
  · intro form
    obtain ⟨owner, given⟩ := isText_orElse_iff.mpr form.name
    obtain ⟨list, inside⟩ := form.parts
    obtain ⟨baseList, bases⟩ := form.bases
    obtain ⟨names, read, named⟩ :=
      exists_mapM_iff.mpr fun item member => exists_extractBase_iff.mpr (bases item member)
    rw [given]
    exact ⟨list, (parts owner _).mpr inside, baseList, names, read,
      succeeds_declaredAt_iff.mpr form.span, form.name, named⟩

/-- A top-level node is added to a file exactly when it has the form of its kind. -/
theorem succeeds_addTopLevel_iff {file : FileOutline}
    : Succeeds (addTopLevel source path file node) ↔ TopLevelForm source node := by
  unfold addTopLevel
  split
  · rename_i kind
    refine (succeeds_bind_iff_of fun _ _ => succeeds_ok _).trans ?_
    rw [topLevelForm_iff, succeeds_extractContract_iff]
    simp [kind]
  · rename_i kind
    refine (succeeds_bind_iff_of fun _ _ => succeeds_ok _).trans ?_
    rw [topLevelForm_iff, succeeds_extractImport_iff]
    simp [kind]
  · rename_i kind
    refine iff_of_true (succeeds_ok _) ?_
    rw [topLevelForm_iff]
    simp [kind]
  · rename_i kind
    refine (succeeds_bind_iff_of fun _ _ => succeeds_ok _).trans ?_
    rw [topLevelForm_iff, ← Json.ofOption, succeeds_extractStruct_iff]
    simp [kind]
  · rename_i kind
    refine (succeeds_bind_iff_of fun _ _ => succeeds_ok _).trans ?_
    rw [topLevelForm_iff, ← Json.ofOption, succeeds_extractEnum_iff]
    simp [kind]
  · rename_i kind
    refine (succeeds_bind_iff_of fun _ _ => succeeds_ok _).trans ?_
    rw [topLevelForm_iff, ← Json.ofOption, succeeds_extractFunction_iff]
    simp [kind]
  · rename_i noContract noImport _ noStruct noEnum noFunction
    refine iff_of_true (succeeds_ok _) ⟨?_, ?_, ?_, ?_, ?_⟩
    · exact fun kind => (noContract kind).elim
    · exact fun kind => (noImport kind).elim
    · exact fun kind => (noStruct kind).elim
    · exact fun kind => (noEnum kind).elim
    · exact fun kind => (noFunction kind).elim

/-- A source unit has an outline exactly when it is readable. -/
theorem succeeds_extractOutline_iff {tree : Json}
    : Succeeds (extractOutline tree source path) ↔ IsReadable source tree := by
  rw [extractOutline, succeeds_listed_bind_iff, IsReadable, Json.Lists]
  refine and_congr_right fun _ => ?_
  refine succeeds_foldlM_iff (fun file node _ => ?_) _
  exact succeeds_addTopLevel_iff

end SolidityAtlas
