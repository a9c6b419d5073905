import GraphTable.Proofs.Read.Scan
import GraphTable.Proofs.Remote.Supply
import GraphTable.Proofs.Stream.Simulation

/-!
# Views of either store

A read of a view may go to a remote store, which delivers the results of the
query response by response, or to a graph with which these results are
registered.  The two reads have the same result and leave the same sink, also
where they are cancelled or refused half-way.
-/

namespace GraphTable

namespace Rehearsal

/-- A rehearsal with a connection mirrors one with the records at hand that the
connection supplies: it is as far, and its sink is the same. -/
structure Mirrors (remote : Rehearsal Connection)
    (held : Rehearsal (List Json)) : Prop where
  supplies : remote.cursor.Supplies held.cursor
  sink : remote.sink = held.sink
  checks : remote.checks = held.checks

/-- Every call is answered alike by a connection and by the records that it
supplies. -/
theorem Mirrors.simulates (client : Client) (wantedAt : Nat → Bool) :
    Stream.Simulates Mirrors
      (cursorOf client.puller) sinkOf (statusAt wantedAt)
      (cursorOf .records) sinkOf (statusAt wantedAt) where
  check remote held mirrors :=
    ⟨congrArg wantedAt mirrors.checks, mirrors.supplies, mirrors.sink,
      congrArg Nat.succ mirrors.checks⟩
  pull remote held mirrors := by
    obtain ⟨same, supplies⟩ := mirrors.supplies.next client.wait
    exact ⟨same, supplies, mirrors.sink, mirrors.checks⟩
  write candidate remote held mirrors := by
    rw [sinkOf_pure, sinkOf_pure, mirrors.sink]
    exact ⟨rfl, mirrors.supplies, rfl, mirrors.checks⟩

variable {request : ReadRequest} {script : String} {results : List Json}

theorem opening_of_query (isQuery : request.schema.query = .ok script) :
    Read.opening request .view = .ok (.submit script) := by
  rw [Read.opening, isQuery]
  rfl

theorem openCursor_registered {graph : Graph}
    (registered : graph.queries.get? (Text.trim script) = some results)
    (world : Rehearsal (List Json)) :
    Read.openCursor (graphStore graph) (.submit script) world =
      (.ok (cursorOf .records), { world with cursor := results }) := by
  change openRecords (graph.submit script) world = _
  rw [Graph.submit, registered]
  rfl

/-- A read of a view has the same result and leaves the same sink, whether a
remote store delivers the results of its query, in whatever responses, or they
are registered with a graph.  This holds for every sink, open or closed, and for
every query that is wanted at some checks and not at others. -/
theorem read_remote_eq_read_registered (client : Client) (requestId : String)
    {graph : Graph} {events : List Event}
    (isView : request.schema.kind = .ok .view)
    (isQuery : request.schema.query = .ok script)
    (registered : graph.queries.get? (Text.trim script) = some results)
    (delivery : Delivery events results) (behind : List Event) (strict : Bool)
    (options : Dict String) (wantedAt : Nat → Bool) (sink : GuardedSink)
    (idle : Connection) (held : List Json) :
    ∃ result remote kept,
      Read.run
          (remoteStore client requestId (.established (events ++ behind)))
          strict request (statusAt wantedAt) sinkOf options
          (started idle sink) = (some result, remote) ∧
      Read.run (graphStore graph) strict request (statusAt wantedAt) sinkOf
          options (started held sink) = (some result, kept) ∧
      remote.sink = kept.sink := by
  have isAsked := opening_of_query isQuery
  let connected : Rehearsal Connection :=
    { started (.opened (events ++ behind)) sink with
      sent := [EvalRequest.encode ⟨requestId, script⟩] }
  let loaded : Rehearsal (List Json) := started results sink
  have remoteOpened : Read.openCursor
      (remoteStore client requestId (.established (events ++ behind)))
      (.submit script) (started idle sink) =
        (.ok (cursorOf client.puller), connected) :=
    rfl
  have graphOpened : Read.openCursor (graphStore graph) (.submit script)
      (started held sink) = (.ok (cursorOf .records), loaded) :=
    openCursor_registered registered _
  have supplies := Connection.supplies_of_delivery delivery behind
  have mirrors : Mirrors connected loaded := ⟨supplies, rfl, rfl⟩
  obtain ⟨result, remote, kept, remoteRan, graphRan, mirrored⟩ :=
    (Mirrors.simulates client wantedAt).run (records_keepsBound wantedAt)
      (request.projector .view options) mirrors supplies.length_le_bound
  obtain ⟨conclusion, concluded⟩ := Read.exists_conclude .view result
  refine ⟨conclusion, remote, kept, ?_, ?_, mirrored.sink⟩
  · rw [Read.run_of_opened isView isAsked remoteOpened, remoteRan]
    simp only [concluded]
  · rw [Read.run_of_opened isView isAsked graphOpened, graphRan]
    simp only [concluded]

/-- A request for a view of identifiers. -/
def idsRequest : ReadRequest :=
  ⟨"q", ⟨"s", "ids"⟩,
    ⟨[⟨"id", .int64⟩],
      (Dict.empty.insert Schema.kindKey "view").insert Schema.queryKey
        "g.V().id()"⟩,
    none, Dict.empty⟩

/-- A graph with which the results of the view are registered. -/
def idsGraph : Graph :=
  Graph.empty.registerQuery " g.V().id() " [Json.ofNat 1, Json.ofNat 7]

/-- A query that is wanted at the first check alone leaves the first of the two
identifiers that a remote store delivers. -/
theorem idsRequest_remote :
    ∃ remote,
      Read.run
          (remoteStore ⟨"ws://store", 5⟩ "request" (.established
            ([Connection.firstResponse, .control] ++
              [Connection.lastResponse] ++ [.close])))
          false idsRequest (statusAt (· == 0)) sinkOf Dict.empty
          (started (.opened []) ⟨.new 10, {}⟩) =
        (some (.ok ⟨some .view, ⟨1, 1, true⟩⟩), remote) ∧
      remote.sink.inner.rows = [⟨[("id", Json.ofNat 1)]⟩] := by
  have isView : idsRequest.schema.kind = .ok .view := by
    cbv
  have isQuery : idsRequest.schema.query = .ok "g.V().id()" := by
    cbv
  have registered : idsGraph.queries.get? (Text.trim "g.V().id()") =
      some [Json.ofNat 1, Json.ofNat 7] := by
    cbv
  have before : Partial [Connection.firstResponse, .control] [Json.ofNat 1] :=
    .cons Connection.firstResponse_continues (.cons .control .nil)
  obtain ⟨result, remote, kept, remoteRan, graphRan, same⟩ :=
    read_remote_eq_read_registered ⟨"ws://store", 5⟩ "request" isView isQuery
      registered (.mk before Connection.lastResponse_completes) [.close] false
      Dict.empty (· == 0) ⟨.new 10, {}⟩ (.opened []) []
  have answer : (Read.run (graphStore idsGraph) false idsRequest
      (statusAt (· == 0)) sinkOf Dict.empty (started [] ⟨.new 10, {}⟩)).1 =
        some (.ok ⟨some .view, ⟨1, 1, true⟩⟩) := by
    cbv
  have rows : (Read.run (graphStore idsGraph) false idsRequest
      (statusAt (· == 0)) sinkOf Dict.empty
      (started [] ⟨.new 10, {}⟩)).2.sink.inner.rows =
        [⟨[("id", Json.ofNat 1)]⟩] := by
    cbv
  rw [graphRan] at answer rows
  obtain rfl := Option.some.inj answer
  refine ⟨remote, remoteRan, ?_⟩
  rw [same]
  exact rows

end Rehearsal

end GraphTable
