import SolidityAtlas.SyntaxTree.Span
import SolidityAtlas.Proofs.Source.Tightest

/-! Spans that nodes carry. A span in integers is read as it stands, and a node without one is
skipped, so the search for the innermost function is a search through nodes with their spans.
-/

namespace SolidityAtlas

variable {node : Json} {span other : Location} {line column : Int}

/-- A node that gives a span in integers. -/
structure CarriesSpan (node : Json) (span : Location) : Prop where
  first
    : endOf? (node.field "loc") "start" = some (.int span.first.line, .int span.first.column)
  last : endOf? (node.field "loc") "end" = some (.int span.last.line, .int span.last.column)

/-- A span in integers is read as it stands. -/
theorem CarriesSpan.locationOf (carried : CarriesSpan node span)
    : locationOf node = .ok (some span) := by
  rw [SolidityAtlas.locationOf, carried.first]
  simp only [carried.last]
  rfl

/-- A node has at most one span in integers. -/
theorem CarriesSpan.unique (carried : CarriesSpan node span) (otherCarried : CarriesSpan node other)
    : span = other :=
  Option.some.inj (Except.ok.inj (carried.locationOf.symm.trans otherCarried.locationOf))

/-- A node of a kind with a name, a span and further properties. -/
def spanned (kind name : String) (span : Location) (properties : List (String × Json)) : Json :=
  let position (place : Position) : Json :=
    .obj [("line", .int place.line), ("column", .int place.column)]
  .obj ([("type", .str kind), ("name", .str name),
    ("loc", .obj [("start", position span.first), ("end", position span.last)])] ++ properties)

/-- A node that is made with a span carries it. -/
theorem carriesSpan_spanned {kind name : String} {properties : List (String × Json)}
    : CarriesSpan (spanned kind name span properties) span :=
  ⟨rfl, rfl⟩

/-- The nodes that have a span, with it. -/
def located (spanOf : Json → Option Location) (nodes : List Json) : List (Json × Location) :=
  nodes.filterMap fun node => (spanOf node).map fun span => (node, span)

/-- A node is listed with a span when it is among the nodes and has the span. -/
theorem mem_located_iff {spanOf : Json → Option Location} {nodes : List Json}
    : (node, span) ∈ located spanOf nodes ↔ node ∈ nodes ∧ spanOf node = some span := by
  simp only [located, List.mem_filterMap, Option.map_eq_some_iff, Prod.mk.injEq]
  constructor
  · rintro ⟨_, member, _, found, rfl, rfl⟩
    exact ⟨member, found⟩
  · rintro ⟨member, found⟩
    exact ⟨node, member, span, found, rfl, rfl⟩

/-- The search through nodes whose spans are read is the search for the tightest of those that have
one, by induction on the nodes.
-/
theorem foldlM_enclosingStep {spanOf : Json → Option Location} (nodes : List Json)
    (best : Option (Json × Location)) (read : ∀ node ∈ nodes, locationOf node = .ok (spanOf node))
    : nodes.foldlM (enclosingStep line column) best
      = .ok ((located spanOf nodes).foldl (tightestBy Prod.snd line column) best) := by
  induction nodes generalizing best with
  | nil => rfl
  | cons node rest ih =>
      have later (best : Option (Json × Location)) :=
        ih best fun other member => read other (List.mem_cons_of_mem _ member)
      have step
          : enclosingStep line column best node
            = .ok (tightest line column best node (spanOf node)) := by
        rw [enclosingStep, read node List.mem_cons_self]
        rfl
      rw [List.foldlM_cons, step]
      cases found : spanOf node with
      | none =>
          have skipped : located spanOf (node :: rest) = located spanOf rest :=
            List.filterMap_cons_none (by rw [found]; rfl)
          rw [skipped]
          exact later best
      | some span =>
          have taken : located spanOf (node :: rest) = (node, span) :: located spanOf rest :=
            List.filterMap_cons_some (by rw [found]; rfl)
          have same
              : tightest line column best node (some span)
                = tightestBy Prod.snd line column best (node, span) := by
            cases best <;> rfl
          rw [taken, List.foldl_cons, ← same]
          exact later _

end SolidityAtlas
