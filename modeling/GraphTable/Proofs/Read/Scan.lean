import GraphTable.Proofs.Graph.Scan
import GraphTable.Proofs.Stream.Full
import GraphTable.Proofs.Table.Rows

/-!
# Reads of vertices and edges

A read of a table of vertices or edges that nothing interrupts writes one row
for each element with the label of the table, in the order of the graph.
-/

namespace GraphTable

def Source.kind : Source → TableKind
  | .vertices => .vertex
  | .edges => .edge

theorem Source.kind_ne_view (source : Source) : source.kind ≠ .view := by
  cases source <;> exact fun same => nomatch same

def ReadRequest.projector (request : ReadRequest) (kind : TableKind)
    (options : Dict String) : Projector :=
  .build request.schema.columns kind (.ofOptions options)

/-- The result of a stream as the result of a read. -/
def Read.conclude (kind : TableKind) :
    Option (Except StreamError StreamStats) →
    Option (Except ReadError ReadSummary)
  | none => none
  | some (.error error) => some (.error error.toReadError)
  | some (.ok stats) => some (.ok ⟨some kind, stats⟩)

theorem Read.exists_conclude (kind : TableKind)
    (result : Except StreamError StreamStats) :
    ∃ conclusion, conclude kind (some result) = some conclusion := by
  cases result <;> exact ⟨_, rfl⟩

theorem Read.eq_ok_of_conclude {kind : TableKind}
    {result : Except StreamError StreamStats} {summary : ReadSummary}
    (concluded : conclude kind (some result) = some (.ok summary)) :
    result = .ok summary.stats := by
  cases result with
  | error error => cases concluded
  | ok stats =>
      cases concluded
      rfl

/-- Once a cursor is open, a read is the run of the stream. -/
theorem Read.run_of_opened {ω : Type} {store : Store ω} {request : ReadRequest}
    {kind : TableKind} {asked : Opening} {cursor : Cursor ω} {world opened : ω}
    (isKind : request.schema.kind = .ok kind)
    (isAsked : opening request kind = .ok asked)
    (answered : openCursor store asked world = (.ok cursor, opened))
    (strict : Bool) (status : Status ω) (sink : Sink ω)
    (options : Dict String) :
    run store strict request status sink options world =
      let (result, after) := Stream.run cursor
        (request.projector kind options) sink status opened
      (conclude kind result, after) := by
  unfold run
  simp only [isKind, isAsked, bind_apply, answered, ReadRequest.projector]
  rcases Stream.run cursor (Projector.build request.schema.columns kind
    (MatchOptions.ofOptions options)) sink status opened
    with ⟨_ | _ | _, after⟩ <;> rfl

namespace Rehearsal

variable {graph : Graph} {source : Source} {request : ReadRequest}
  {options : Dict String} {world : Rehearsal (List Json)}

/-- A rehearsal with a new sink, in which nothing was done yet. -/
def fresh (blockSize : Nat) : Rehearsal (List Json) :=
  ⟨[], ⟨.new blockSize, {}⟩, {}, 0, 0, [], []⟩

theorem fresh_free (blockSize : Nat) : (fresh blockSize).Free :=
  ⟨rfl, rfl, rfl⟩

def rowOf (graph : Graph) (source : Source) (request : ReadRequest)
    (options : Dict String) (element : Graph.Element) : Row :=
  (request.projector source.kind options).ofMembers (graph.members element)

/-- A row has one cell for each column. -/
theorem rowOf_cell (graph : Graph) (source : Source) (request : ReadRequest)
    (options : Dict String) (element : Graph.Element) (place : Nat) :
    (rowOf graph source request options element).cells[place]? =
      request.schema.columns[place]?.map fun column =>
        (column.name,
          column.value source.kind (.ofOptions options)
            (graph.members element)) :=
  Projector.ofMembers_cell request.schema.columns source.kind
    (.ofOptions options) (graph.members element) place

theorem candidate?_record (projector : Projector)
    (isScan : projector.kind ≠ .view) (graph : Graph)
    (element : Graph.Element) :
    projector.candidate? (graph.record element) =
      some (projector.ofMembers (graph.members element)) := by
  obtain ⟨kind, rules⟩ := projector
  cases kind with
  | vertex => rfl
  | edge => rfl
  | view => exact absurd rfl isScan

/-- The candidates of a scan are the rows of its elements. -/
theorem candidates_scan (graph : Graph) (source : Source)
    (request : ReadRequest) (options : Dict String)
    (elements : List Graph.Element) :
    (request.projector source.kind options).candidates
        (elements.map graph.record) =
      (elements.map (rowOf graph source request options)).map some := by
  rw [Projector.candidates, List.map_map, List.map_map]
  refine List.map_congr_left fun element _ => ?_
  exact candidate?_record _ source.kind_ne_view graph element

/-- The rows of a scan are the rows of its elements. -/
theorem rows_scan (graph : Graph) (source : Source) (request : ReadRequest)
    (options : Dict String) (elements : List Graph.Element) :
    (request.projector source.kind options).rows (elements.map graph.record) =
      elements.map (rowOf graph source request options) := by
  rw [Projector.rows_eq, candidates_scan, List.filterMap_map]
  simp

theorem opening_scan (request : ReadRequest) (source : Source) :
    Read.opening request source.kind =
      .ok (.traverse (source.scan request.label)) := by
  cases source <;> rfl

theorem openCursor_scan (graph : Graph) (source : Source) (label : String)
    (world : Rehearsal (List Json)) :
    Read.openCursor (graphStore graph) (.traverse (source.scan label)) world =
      (.ok (cursorOf .records),
        { world with
          cursor := (graph.elementsWith source label).map graph.record }) := by
  change openRecords (graph.evaluate (source.scan label)) world = _
  rw [Graph.evaluate_scan]
  rfl

/-- A read of vertices or edges writes one row for each element with the label,
in the order of the graph. -/
theorem read_scan (graph : Graph) (strict : Bool) (options : Dict String)
    (free : world.Free) (isKind : request.schema.kind = .ok source.kind) :
    ∃ after,
      read (graphStore graph) strict request options world =
        (some (.ok ⟨some source.kind,
          .counting (graph.elementsWith source request.label).length
            (graph.elementsWith source request.label).length false⟩),
          after) ∧
      world.sink.inner.Took
        (((graph.elementsWith source request.label).map
          (rowOf graph source request options)).map some)
        after.sink.inner := by
  have isAsked := opening_scan request source
  have answered := openCursor_scan graph source request.label world
  generalize graph.elementsWith source request.label = elements at answered ⊢
  let opened : Rehearsal (List Json) :=
    { world with cursor := elements.map graph.record }
  have openedFree : opened.Free :=
    ⟨free.unlimited, free.isOpen, free.wanted⟩
  have candidates := candidates_scan graph source request options elements
  have rows : (request.projector source.kind options).rows opened.cursor =
      elements.map (rowOf graph source request options) :=
    rows_scan graph source request options elements
  obtain ⟨after, ran, took⟩ :=
    openedFree.run (request.projector source.kind options)
  rw [rows, List.length_map] at ran
  refine ⟨after, ?_, candidates ▸ took⟩
  rw [read, Read.run_of_opened isKind isAsked answered, ran]
  simp [Read.conclude]

/-- A read into a new sink leaves exactly the rows of the elements. -/
theorem read_fresh (graph : Graph) (strict : Bool) (options : Dict String)
    (blockSize : Nat) (isKind : request.schema.kind = .ok source.kind) :
    ∃ after,
      read (graphStore graph) strict request options (fresh blockSize) =
        (some (.ok ⟨some source.kind,
          .counting (graph.elementsWith source request.label).length
            (graph.elementsWith source request.label).length false⟩),
          after) ∧
      after.sink.inner.rows = (graph.elementsWith source request.label).map
        (rowOf graph source request options) := by
  obtain ⟨after, result, took⟩ :=
    read_scan graph strict options (fresh_free blockSize) isKind
  refine ⟨after, result, ?_⟩
  have newRows : (fresh blockSize).sink.inner.rows = [] := rfl
  rw [took.rows, newRows, List.filterMap_map]
  simp

end Rehearsal

end GraphTable
