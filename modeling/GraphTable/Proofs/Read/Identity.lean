import GraphTable.Proofs.Graph.Projections
import GraphTable.Proofs.Read.Scan

/-!
# Identity in rows

Columns named `id` and `label`, and `in` and `out` for edges, are meant to show
what identifies an element.  They do, unless the element has a property with the
name of the entry that they read: the property replaces the entry, and the
column shows the property.
-/

namespace GraphTable

namespace Graph

namespace Element

/-- What identifies an element, by the name of the column in small letters. -/
def identity? : Element → String → Option Json
  | .vertex v, "id" => some v.id
  | .vertex v, "label" => some (.string v.label)
  | .edge e, "id" => some e.id
  | .edge e, "label" => some (.string e.label)
  | .edge e, "in" => some e.inVertex
  | .edge e, "out" => some e.outVertex
  | _, _ => none

/-- What a property that is described as an end shows in the column of the end:
its own identifier, or null. -/
def shownEnd (value : Json) : Json :=
  (value.member? "id").getD .null

/-- What a property shows in a column that is meant for the identity. -/
def shadow? : Element → String → Option Json
  | .vertex v, "id" => (v.properties.last? "id").map Vertex.asList
  | .vertex v, "label" => (v.properties.last? "label").map Vertex.asList
  | .edge e, "id" => e.properties.last? "id"
  | .edge e, "label" => e.properties.last? "label"
  | .edge e, "in" => (e.properties.last? "IN").map shownEnd
  | .edge e, "out" => (e.properties.last? "OUT").map shownEnd
  | _, _ => none

end Element

/-- An end is described by its own identifier, whether the graph has the vertex
or not. -/
theorem endpoint_id (graph : Graph) (id : Json) :
    (graph.endpoint id).member? "id" = some id := by
  unfold endpoint
  split <;> rfl

theorem or_some_getD {α : Type} (found : Option α) (truth null : α) :
    (found.or (some truth)).getD null = found.getD truth := by
  cases found <;> rfl

theorem or_some_bind_getD {described id : Json} (found : Option Json)
    (identified : described.member? "id" = some id) :
    ((found.or (some described)).bind (Json.member? "id")).getD .null =
      (found.map Element.shownEnd).getD id := by
  cases found with
  | none => simp [identified]
  | some value => rfl

/-- What a column that is meant for the identity shows. -/
theorem value_identity (graph : Graph) {element : Element} {column : Column}
    {truth : Json} (options : MatchOptions)
    (isIdentity : element.identity? (Text.lower column.name) = some truth) :
    column.value element.source.kind options (graph.members element) =
      (element.shadow? (Text.lower column.name)).getD truth := by
  unfold Column.value Rule.ofColumn
  generalize Text.lower column.name = name at isIdentity ⊢
  unfold Element.identity? at isIdentity
  split at isIdentity
  case h_7 => cases isIdentity
  all_goals
    cases isIdentity
    simp only [Element.source, Source.kind, Rule.extract?, EdgeEnd.key,
      Element.shadow?, lookup?_members_vertex, lookup?_members_edge]
  case h_1 => exact or_some_getD _ _ _
  case h_2 => exact or_some_getD _ _ _
  case h_3 => exact or_some_getD _ _ _
  case h_4 => exact or_some_getD _ _ _
  case h_5 edge => exact or_some_bind_getD _ (graph.endpoint_id edge.inVertex)
  case h_6 edge => exact or_some_bind_getD _ (graph.endpoint_id edge.outVertex)

namespace Element

/-- Every column that is meant for the identity of an element shows it. -/
def Told (element : Element) (columns : List Column) (row : Row) : Prop :=
  ∀ (place : Nat) (column : Column) (truth : Json),
    columns[place]? = some column →
      element.identity? (Text.lower column.name) = some truth →
        row.cells[place]? = some (column.name, truth)

/-- No property shows anything else than the identity in a column that is meant
for it. -/
def Unshadowed (element : Element) (columns : List Column) : Prop :=
  ∀ column ∈ columns, ∀ truth shown,
    element.identity? (Text.lower column.name) = some truth →
      element.shadow? (Text.lower column.name) = some shown → shown = truth

end Element

end Graph

namespace Rehearsal

open GraphTable.Graph

variable {graph : Graph} {request : ReadRequest} {options : Dict String}
  {element : Element}

/-- A column that is meant for the identity shows a property if there is one,
and else the identity. -/
theorem rowOf_identity {place : Nat} {column : Column} {truth : Json}
    (stands : request.schema.columns[place]? = some column)
    (isIdentity : element.identity? (Text.lower column.name) = some truth) :
    (rowOf graph element.source request options element).cells[place]? =
      some (column.name,
        (element.shadow? (Text.lower column.name)).getD truth) := by
  rw [rowOf_cell, stands, Option.map_some, value_identity graph _ isIdentity]

theorem told_iff :
    element.Told request.schema.columns
        (rowOf graph element.source request options element) ↔
      element.Unshadowed request.schema.columns := by
  constructor
  · intro told column mem truth shown isIdentity isShadow
    obtain ⟨place, stands⟩ := List.getElem?_of_mem mem
    have cell := told place column truth stands isIdentity
    rw [rowOf_identity stands isIdentity, isShadow] at cell
    simpa using cell
  · intro unshadowed place column truth stands isIdentity
    rw [rowOf_identity stands isIdentity]
    cases isShadow : element.shadow? (Text.lower column.name) with
    | none => rfl
    | some shown =>
        have same := unshadowed column (List.mem_of_getElem? stands) truth shown
          isIdentity isShadow
        simp [same]

/-- In the row of an element each column that is meant for the identity shows
the property that stands in its way, if there is one.  All of them show the
identity exactly if no property shows anything else. -/
theorem identity_columns (graph : Graph) {source : Source}
    {request : ReadRequest} (strict : Bool) (options : Dict String)
    (blockSize : Nat) (isKind : request.schema.kind = .ok source.kind) :
    ∃ after,
      read (graphStore graph) strict request options (fresh blockSize) =
        (some (.ok ⟨some source.kind,
          .counting (graph.elementsWith source request.label).length
            (graph.elementsWith source request.label).length false⟩),
          after) ∧
      after.sink.inner.rows.length =
        (graph.elementsWith source request.label).length ∧
      ∀ (index : Nat) (element : Element) (row : Row),
        (graph.elementsWith source request.label)[index]? = some element →
        after.sink.inner.rows[index]? = some row →
          (∀ (place : Nat) (column : Column) (truth : Json),
            request.schema.columns[place]? = some column →
            element.identity? (Text.lower column.name) = some truth →
              row.cells[place]? = some (column.name,
                (element.shadow? (Text.lower column.name)).getD truth)) ∧
          (element.Told request.schema.columns row ↔
            element.Unshadowed request.schema.columns) := by
  obtain ⟨after, result, rows⟩ :=
    read_fresh graph strict options blockSize isKind
  refine ⟨after, result, by rw [rows, List.length_map], ?_⟩
  intro index element row isElement isRow
  rw [rows, List.getElem?_map, isElement, Option.map_some] at isRow
  obtain rfl := Option.some.inj isRow
  obtain rfl := source_of_mem (List.mem_of_getElem? isElement)
  exact ⟨fun place column truth => rowOf_identity, told_iff⟩

/-- A request for the identifiers of all persons. -/
def personRequest : ReadRequest :=
  ⟨"q", ⟨"s", "person"⟩,
    ⟨[⟨"id", .int64⟩], Dict.empty.insert Schema.kindKey "vertex"⟩, none,
    Dict.empty⟩

theorem personRequest_kind :
    personRequest.schema.kind = .ok Source.vertices.kind := by
  cbv

def plainPerson : Vertex :=
  ⟨Json.ofNat 1, "person", [("name", .string "marko")]⟩

/-- A person with a property that is named like its identifier. -/
def shadowedPerson : Vertex :=
  ⟨Json.ofNat 1, "person", [("id", Json.ofNat 7)]⟩

theorem elementsWith_person {vertex : Vertex}
    (isPerson : vertex.label = "person") :
    (Graph.empty.addVertex vertex).elementsWith .vertices personRequest.label =
      [.vertex vertex] := by
  have label : personRequest.label = "person" := by
    cbv
  simp [elementsWith, start, Graph.addVertex, Graph.empty, Element.label,
    isPerson, label]

theorem plainPerson_unshadowed :
    Element.Unshadowed (.vertex plainPerson) personRequest.schema.columns := by
  intro column mem truth shown isIdentity isShadow
  obtain rfl := List.mem_singleton.mp mem
  cases isShadow

/-- The identifier of a person without such a property is shown. -/
theorem plainPerson_told :
    ∃ after,
      read (graphStore (Graph.empty.addVertex plainPerson)) false
          personRequest Dict.empty (fresh 10) =
        (some (.ok ⟨some .vertex, ⟨1, 1, false⟩⟩), after) ∧
      after.sink.inner.rows.length = 1 ∧
      ∀ row, after.sink.inner.rows[0]? = some row →
        Element.Told (.vertex plainPerson) personRequest.schema.columns row := by
  obtain ⟨after, result, length, rows⟩ := identity_columns
    (Graph.empty.addVertex plainPerson) false Dict.empty 10 personRequest_kind
  rw [elementsWith_person rfl] at result length rows
  refine ⟨after, result, length, fun row isRow => ?_⟩
  exact (rows 0 _ row rfl isRow).2.mpr plainPerson_unshadowed

/-- The identifier of a person with such a property is not shown. -/
theorem shadowedPerson_not_told :
    ∃ after row,
      read (graphStore (Graph.empty.addVertex shadowedPerson)) false
          personRequest Dict.empty (fresh 10) =
        (some (.ok ⟨some .vertex, ⟨1, 1, false⟩⟩), after) ∧
      after.sink.inner.rows = [row] ∧
      row.cells = [("id", .array [Json.ofNat 7])] ∧
      ¬Element.Told (.vertex shadowedPerson) personRequest.schema.columns
        row := by
  obtain ⟨after, result, rows⟩ := read_fresh
    (Graph.empty.addVertex shadowedPerson) false Dict.empty 10
    personRequest_kind
  rw [elementsWith_person rfl] at result rows
  refine ⟨after, _, result, rows, rfl, fun told => ?_⟩
  have cell : some ("id", Json.array [Json.ofNat 7]) =
      some ("id", Json.ofNat 1) :=
    told 0 ⟨"id", .int64⟩ (Json.ofNat 1) rfl rfl
  simp [Json.ofNat] at cell

end Rehearsal

end GraphTable
