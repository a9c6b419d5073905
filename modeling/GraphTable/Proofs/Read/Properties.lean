import Mathlib
import GraphTable.Proofs.Read.Scan
import GraphTable.Proofs.Stream.Added
import GraphTable.Proofs.Table.Columns
import GraphTable.Proofs.Table.Search

/-!
# Properties of elements in columns

A scan wraps the properties of vertices in lists and puts those of vertices and
edges alike beside the identity of the element.  A column that does not belong
to the identity undoes both: it shows what is found by its name among the
properties alone.
-/

namespace GraphTable

/-- What a column of a type is to show of a property of an element.  For edges
this is the property itself; a vertex is taken to have all the values of a list,
and one of them is shown unless the column is for lists. -/
def Source.presented : Source → ColumnType → Json → Json
  | .vertices, .list, .array items => .array items
  | .vertices, .list, value => .array [value]
  | .vertices, _, .array items => items.headD .null
  | .vertices, _, value => value
  | .edges, _, value => value

/-- How a scan stores a property of an element. -/
def Source.stored : Source → Json → Json
  | .vertices => Vertex.asList
  | .edges => id

theorem Source.shown_stored (source : Source) (type : ColumnType)
    (value : Json) :
    source.kind.shown type (source.stored value) =
      source.presented type value := by
  cases source with
  | edges => rfl
  | vertices => cases type <;> cases value <;> rfl

namespace Graph

/-- The entries that a scan puts before the properties of an element. -/
def tokens (graph : Graph) : Element → Entries Json
  | .vertex vertex => vertex.tokens
  | .edge edge =>
      edge.tokens ++ [("IN", graph.endpoint edge.inVertex),
        ("OUT", graph.endpoint edge.outVertex)]

namespace Element

def properties : Element → Dict Json
  | .vertex v => .ofEntries v.properties
  | .edge e => .ofEntries e.properties

/-- Every column that does not belong to the identity of an element shows the
property that is found by its name, and null if there is none. -/
def ShowsProperties (element : Element) (columns : List Column)
    (ignoreCase : Bool) (row : Row) : Prop :=
  ∀ (place : Nat) (column : Column), columns[place]? = some column →
    Text.lower column.name ∉ element.source.kind.identityNames →
      ∃ found, element.properties.Finds column.name ignoreCase found ∧
        row.cells[place]? = some (column.name,
          (found.map (element.source.presented column.type)).getD .null)

end Element

theorem lower_tokens {graph : Graph} {element : Element}
    {entry : String × Json} (mem : entry ∈ graph.tokens element) :
    Text.lower entry.1 ∈ element.source.kind.identityNames := by
  have byName : entry.1 ∈ (graph.tokens element).names :=
    List.mem_map_of_mem mem
  cases element with
  | vertex vertex =>
      have small : ∀ name ∈ ["id", "label"],
          Text.lower name ∈ TableKind.vertex.identityNames := by
        decide
      exact small entry.1 byName
  | edge edge =>
      have small : ∀ name ∈ ["id", "label", "IN", "OUT"],
          Text.lower name ∈ TableKind.edge.identityNames := by
        decide
      exact small entry.1 byName

/-- The members of an element are its properties, as they are stored, inserted
behind the entries of the identity. -/
theorem members_eq (graph : Graph) (element : Element) :
    ∃ properties : Entries Json,
      graph.members element =
        Entries.insertAll (graph.tokens element)
          (properties.map fun entry =>
            (entry.1, element.source.stored entry.2)) ∧
      element.properties = .ofEntries properties := by
  cases element with
  | vertex vertex => exact ⟨vertex.properties, rfl, rfl⟩
  | edge edge =>
      have same : edge.properties.map (fun entry => (entry.1, id entry.2)) =
          edge.properties :=
        List.map_id edge.properties
      refine ⟨edge.properties, ?_, rfl⟩
      simp only [Element.source, Source.stored, same]
      rfl

/-- A name that does not belong to the identity finds what it finds among the
properties. -/
theorem findMember?_members (graph : Graph) {element : Element} {name : String}
    (other : Text.lower name ∉ element.source.kind.identityNames)
    (ignoreCase : Bool) :
    findMember? name ignoreCase (graph.members element) =
      (findMember? name ignoreCase element.properties.entries).map
        element.source.stored := by
  obtain ⟨properties, membersEq, propertiesEq⟩ := graph.members_eq element
  have apart : ∀ entry ∈ graph.tokens element,
      Text.lower entry.1 ≠ Text.lower name := by
    intro entry mem same
    exact other (same ▸ lower_tokens mem)
  calc
    findMember? name ignoreCase (graph.members element)
      = findMember? name ignoreCase (Entries.insertAll []
          (properties.map fun entry =>
            (entry.1, element.source.stored entry.2))) := by
        rw [membersEq, findMember?_insertAll apart, Dict.entries_ofEntries]
    _ = findMember? name ignoreCase (element.properties.entries.map fun entry =>
          (entry.1, element.source.stored entry.2)) := by
        rw [propertiesEq, Dict.entries_ofEntries, Entries.map_insertAll]
        rfl
    _ = _ := findMember?_map element.source.stored _

end Graph

namespace Rehearsal

open GraphTable.Graph

/-- The row of an element shows its properties in all columns that do not belong
to its identity. -/
theorem rowOf_showsProperties (graph : Graph) (element : Element)
    (request : ReadRequest) (options : Dict String) :
    element.ShowsProperties request.schema.columns
      (MatchOptions.ofOptions options).ignoreCase
      (rowOf graph element.source request options element) := by
  intro place column stands other
  have ignores := TableKind.ignoresCase_of_scan element.source.kind_ne_view
    (.ofOptions options)
  refine ⟨_, Dict.finds_iff.mpr rfl, ?_⟩
  rw [rowOf_cell, stands, Option.map_some, Column.value_of_property other,
    ignores, graph.findMember?_members other, Option.map_map]
  congr 4
  exact funext (element.source.shown_stored column.type)

/-- Whatever interrupts a read of vertices or edges, it comes to a result, and by
then it has added the rows of the first elements. -/
theorem read_added (graph : Graph) {source : Source} {request : ReadRequest}
    (strict : Bool) (options : Dict String) (wantedAt : Nat → Bool)
    (world : Rehearsal (List Json))
    (isKind : request.schema.kind = .ok source.kind) :
    ∃ result after elements,
      Read.run (graphStore graph) strict request (statusAt wantedAt) sinkOf
          options world = (some result, after) ∧
      elements <+: graph.elementsWith source request.label ∧
      (∀ summary, result = .ok summary → summary.stats.cancelled = false →
        elements = graph.elementsWith source request.label) ∧
      after.sink.inner.rows =
        world.sink.inner.rows ++
          elements.map (rowOf graph source request options) := by
  have isAsked := opening_scan request source
  have answered := openCursor_scan graph source request.label world
  generalize graph.elementsWith source request.label = all at answered ⊢
  let opened : Rehearsal (List Json) :=
    { world with cursor := all.map graph.record }
  obtain ⟨result, after, records, ran, added⟩ :=
    run_added (request.projector source.kind options) wantedAt opened
  obtain ⟨conclusion, concluded⟩ := Read.exists_conclude source.kind result
  have taken : records = (all.take records.length).map graph.record := by
    rw [List.map_take]
    exact List.prefix_iff_eq_take.mp added.isPrefix
  refine ⟨conclusion, after, all.take records.length, ?_,
    List.take_prefix _ all, ?_, ?_⟩
  · rw [Read.run_of_opened isKind isAsked answered, ran]
    simp only [concluded]
  · rintro summary rfl uncancelled
    have whole := added.whole _ (Read.eq_ok_of_conclude concluded)
      uncancelled
    have length : records.length = all.length := by
      rw [whole, List.length_map]
    rw [length, List.take_length]
  · rw [← rows_scan, ← taken]
    exact added.rows

/-- In the rows that a read of vertices or edges adds, every column that does not
belong to the identity shows a property of its element: the one that is found by
the name of the column among the properties of this element, as it is there, or
null if there is none.  There is such a row for each of the first elements, and
for all of them if the read was neither cancelled nor refused. -/
theorem property_columns (graph : Graph) {source : Source}
    {request : ReadRequest} (strict : Bool) (options : Dict String)
    (wantedAt : Nat → Bool) (world : Rehearsal (List Json))
    (isKind : request.schema.kind = .ok source.kind) :
    ∃ result after elements shown,
      Read.run (graphStore graph) strict request (statusAt wantedAt) sinkOf
          options world = (some result, after) ∧
      elements <+: graph.elementsWith source request.label ∧
      (∀ summary, result = .ok summary → summary.stats.cancelled = false →
        elements = graph.elementsWith source request.label) ∧
      after.sink.inner.rows = world.sink.inner.rows ++ shown ∧
      List.Forall₂ (fun element row =>
          element.ShowsProperties request.schema.columns
            (MatchOptions.ofOptions options).ignoreCase row)
        elements shown := by
  obtain ⟨result, after, elements, ran, isPrefix, whole, rows⟩ :=
    read_added graph strict options wantedAt world isKind
  refine ⟨result, after, elements, _, ran, isPrefix, whole, rows, ?_⟩
  rw [List.forall₂_map_right_iff, List.forall₂_same]
  intro element mem
  obtain rfl := source_of_mem (isPrefix.subset mem)
  exact rowOf_showsProperties graph element request options

/-- A request for the names and works of all poets. -/
def poetRequest : ReadRequest :=
  ⟨"q", ⟨"s", "poet"⟩,
    ⟨[⟨"name", .utf8⟩, ⟨"works", .list⟩, ⟨"born", .int64⟩],
      Dict.empty.insert Schema.kindKey "vertex"⟩, none, Dict.empty⟩

/-- A poet with two names, of which none is written like the column. -/
def poet : Vertex :=
  ⟨Json.ofNat 1, "poet",
    [("NAME", .array [.string "Ada", .string "Byron"]),
      ("Name", .string "Lovelace"), ("works", .array [])]⟩

/-- Of the names the first one is found, and of its values the first is shown;
a list without values is shown whole, and what is missing is null. -/
theorem poetRequest_shown :
    ∃ after row,
      Read.run (graphStore (Graph.empty.addVertex poet)) false poetRequest
          (statusAt fun _ => true) sinkOf Dict.empty
          (started [] ⟨.new 10, {}⟩) =
        (some (.ok ⟨some .vertex, ⟨1, 1, false⟩⟩), after) ∧
      after.sink.inner.rows = [row] ∧
      row.cells = [("name", .string "Ada"), ("works", .array []),
        ("born", .null)] ∧
      Element.ShowsProperties (.vertex poet) poetRequest.schema.columns
        (MatchOptions.ofOptions Dict.empty).ignoreCase row := by
  have isKind : poetRequest.schema.kind = .ok Source.vertices.kind := by
    cbv
  have found : (Graph.empty.addVertex poet).elementsWith .vertices
      poetRequest.label = [.vertex poet] := by
    cbv
  have answer : (Read.run (graphStore (Graph.empty.addVertex poet)) false
      poetRequest (statusAt fun _ => true) sinkOf Dict.empty
      (started [] ⟨.new 10, {}⟩)).1 =
        some (.ok ⟨some .vertex, ⟨1, 1, false⟩⟩) := by
    cbv
  have cells : (Read.run (graphStore (Graph.empty.addVertex poet)) false
      poetRequest (statusAt fun _ => true) sinkOf Dict.empty
      (started [] ⟨.new 10, {}⟩)).2.sink.inner.rows =
        [⟨[("name", .string "Ada"), ("works", .array []),
          ("born", .null)]⟩] := by
    cbv
  obtain ⟨result, after, elements, shown, ran, -, whole, rows, shows⟩ :=
    property_columns (Graph.empty.addVertex poet) false Dict.empty
      (fun _ => true) (started [] ⟨.new 10, {}⟩) isKind
  rw [ran] at answer cells
  obtain rfl := Option.some.inj answer
  obtain rfl : after.sink.inner.rows = shown := rows
  rw [whole _ rfl rfl, found, cells, List.forall₂_cons] at shows
  exact ⟨after, _, ran, cells, rfl, shows.1⟩

end Rehearsal

end GraphTable
