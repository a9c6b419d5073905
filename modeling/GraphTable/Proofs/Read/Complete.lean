import Mathlib
import GraphTable.Proofs.Read.Scan

/-!
# Complete reads

A read of vertices or edges that nothing interrupts loses nothing and invents
nothing: each element with the label that the request asks for is shown to the
projector, and none of the projections is left out of the sink.
-/

namespace GraphTable

/-- The label that a request asks for: the label of the metadata just as it is
written there, if one of its characters is not blank, and else the name of the
table. -/
inductive ReadRequest.AsksFor (request : ReadRequest) : String → Prop
  | written {label : String} {c : Char}
      (given : request.schema.metadata.get? Schema.labelKey = some label)
      (mem : c ∈ label.toList) (notBlank : Text.isBlank c = false) :
      request.AsksFor label
  | table
      (blank : ∀ label,
        request.schema.metadata.get? Schema.labelKey = some label →
          ∀ c ∈ label.toList, Text.isBlank c = true) :
      request.AsksFor request.table.table

namespace ReadRequest

variable {request : ReadRequest} {label : String}

theorem label_of_written
    (given : request.schema.metadata.get? Schema.labelKey = some label)
    (notBlank : Text.isAllBlank label = false) : request.label = label := by
  rw [ReadRequest.label, Schema.labelOverride?, given]
  simp [notBlank]

theorem label_of_blank
    (blank : ∀ label, request.schema.metadata.get? Schema.labelKey =
      some label → Text.isAllBlank label = true) :
    request.label = request.table.table := by
  rw [ReadRequest.label, Schema.labelOverride?]
  cases given : request.schema.metadata.get? Schema.labelKey with
  | none => rfl
  | some label => simp [blank label given]

theorem AsksFor.label_eq (asks : request.AsksFor label) :
    request.label = label := by
  cases asks with
  | written given mem notBlank =>
      refine label_of_written given (List.all_eq_false.mpr ⟨_, mem, ?_⟩)
      simp [notBlank]
  | table blank =>
      exact label_of_blank fun label given =>
        List.all_eq_true.mpr (blank label given)

theorem asksFor_label (request : ReadRequest) :
    request.AsksFor request.label := by
  by_cases blank : ∀ label, request.schema.metadata.get? Schema.labelKey =
      some label → Text.isAllBlank label = true
  · rw [label_of_blank blank]
    exact .table fun label given => List.all_eq_true.mp (blank label given)
  · obtain ⟨label, given, notBlank⟩ : ∃ label,
        request.schema.metadata.get? Schema.labelKey = some label ∧
          Text.isAllBlank label = false := by
      simpa using blank
    rw [label_of_written given notBlank]
    obtain ⟨c, mem, isNot⟩ := List.all_eq_false.mp notBlank
    exact .written given mem (by simpa using isNot)

/-- A request asks for one label, which is the one it is read with. -/
theorem asksFor_iff : request.AsksFor label ↔ request.label = label := by
  constructor
  · exact AsksFor.label_eq
  · rintro rfl
    exact request.asksFor_label

end ReadRequest

/-- How a scan shows an element: a vertex by its value map, and an edge by its
element map. -/
def Graph.shown (graph : Graph) : Graph.Element → Json
  | .vertex vertex => vertex.valueMap
  | .edge edge => graph.edgeElementMap edge

theorem Graph.record_eq_shown (graph : Graph) (element : Graph.Element) :
    graph.record element = graph.shown element := by
  cases element <;> rfl

namespace Rehearsal

/-- The rows of a scan are the projections of its elements, and every element
has one. -/
theorem map_some_rowOf (graph : Graph) (source : Source)
    (request : ReadRequest) (options : Dict String)
    (elements : List Graph.Element) :
    (elements.map (rowOf graph source request options)).map some =
      elements.map fun element =>
        (request.projector source.kind options).candidate?
          (graph.shown element) := by
  rw [← candidates_scan, Projector.candidates, List.map_map]
  refine List.map_congr_left fun element _ => ?_
  exact congrArg _ (graph.record_eq_shown element)

/-- A read of vertices or edges into a new sink writes the projection of every
element with the label that the request asks for, in the order of the graph, and
offers the sink nothing else. -/
theorem read_complete (graph : Graph) {source : Source} {request : ReadRequest}
    {label : String} (strict : Bool) (options : Dict String) (blockSize : Nat)
    (isKind : request.schema.kind = .ok source.kind)
    (asks : request.AsksFor label) :
    ∃ after,
      read (graphStore graph) strict request options (fresh blockSize) =
        (some (.ok ⟨some source.kind,
          .counting (graph.elementsWith source label).length
            (graph.elementsWith source label).length false⟩),
          after) ∧
      after.sink.inner.rows.map some =
        (graph.elementsWith source label).map (fun element =>
          (request.projector source.kind options).candidate?
            (graph.shown element)) ∧
      after.sink.inner.rowsWritten =
        (graph.elementsWith source label).length ∧
      after.sink.inner.candidates = after.sink.inner.rowsWritten := by
  obtain rfl := ReadRequest.asksFor_iff.mp asks
  obtain ⟨after, result, took⟩ :=
    read_scan graph strict options (fresh_free blockSize) isKind
  have newRows : (fresh blockSize).sink.inner.rows = [] := rfl
  have newWritten : (fresh blockSize).sink.inner.rowsWritten = 0 := rfl
  have newCandidates : (fresh blockSize).sink.inner.candidates = 0 := rfl
  refine ⟨after, result, ?_, ?_, ?_⟩
  · rw [took.rows, newRows, ← map_some_rowOf]
    simp
  · rw [took.written, newWritten]
    simp
  · rw [took.counted, took.written, newCandidates, newWritten]
    simp

/-- A request for the names of persons, in a table that is named otherwise. -/
def travellersRequest : ReadRequest :=
  ⟨"q", ⟨"s", "travellers"⟩,
    ⟨[⟨"name", .utf8⟩],
      (Dict.empty.insert Schema.kindKey "vertex").insert Schema.labelKey
        "Person"⟩,
    none, Dict.empty⟩

def ada : Vertex :=
  ⟨Json.ofNat 2, "Person", [("name", .string "Ada")]⟩

/-- A graph with labels that differ in letter case alone. -/
def travellersGraph : Graph :=
  (Graph.empty.addVertex
    ⟨Json.ofNat 1, "person", [("name", .string "marko")]⟩).addVertex ada

/-- The label in the metadata goes before the name of the table, and is compared
exactly. -/
theorem travellersRequest_ada :
    ∃ after,
      read (graphStore travellersGraph) false travellersRequest Dict.empty
          (fresh 0) =
        (some (.ok ⟨some .vertex, ⟨1, 1, false⟩⟩), after) ∧
      after.sink.inner.rows = [⟨[("name", .string "Ada")]⟩] ∧
      after.sink.inner.rowsWritten = 1 ∧
      after.sink.inner.candidates = after.sink.inner.rowsWritten := by
  have isKind : travellersRequest.schema.kind = .ok Source.vertices.kind := by
    cbv
  have given : travellersRequest.schema.metadata.get? Schema.labelKey =
      some "Person" := by
    cbv
  have notBlank : Text.isBlank 'P' = false := by
    decide
  have found : travellersGraph.elementsWith .vertices "Person" =
      [.vertex ada] := by
    cbv
  have projected :
      (travellersRequest.projector .vertex Dict.empty).candidate?
          (travellersGraph.shown (.vertex ada)) =
        some ⟨[("name", .string "Ada")]⟩ := by
    cbv
  obtain ⟨after, result, rows, written, candidates⟩ :=
    read_complete travellersGraph false Dict.empty 0 isKind
      (.written given (by decide) notBlank)
  rw [found] at result rows written
  have row : after.sink.inner.rows.map some =
      [some ⟨[("name", .string "Ada")]⟩] :=
    rows.trans (congrArg (fun candidate => [candidate]) projected)
  exact ⟨after, result, by simpa using row, written, candidates⟩

end Rehearsal

end GraphTable
