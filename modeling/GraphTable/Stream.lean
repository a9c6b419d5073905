import GraphTable.Store.Outside
import GraphTable.Table.Projector

/-!
# Streaming

Records are moved from a cursor to a sink one at a time. Each round asks whether
the query is still wanted, then pulls one record, then offers its projection to
the sink. A query that is no longer wanted pulls nothing more.
-/

namespace GraphTable

/-- What a run of the stream did. The counters are words, which start again at
zero behind their last number. -/
structure StreamStats where
  pulled : UInt64 := 0
  written : UInt64 := 0
  cancelled : Bool := false
  deriving Repr, DecidableEq

/-- Why a run of the stream failed. -/
inductive StreamError where
  | store (error : StoreError)
  | sink (error : SinkError)

namespace Stream

variable {ω : Type}

/-- The end of a round: one more round, or the result of the run. -/
inductive Outcome where
  | again (stats : StreamStats)
  | done (result : Except StreamError StreamStats)

def round (cursor : Cursor ω) (projector : Projector) (sink : Sink ω)
    (status : Status ω) (stats : StreamStats) : StateM ω Outcome := do
  if ← status.isRunning then
    match ← cursor.next with
    | .error error => return .done (.error (.store error))
    | .ok none => return .done (.ok stats)
    | .ok (some value) =>
        let record := Record.wrap projector.kind value
        match ← sink.write (pure (projector.project? record)) with
        | .error error => return .done (.error (.sink error))
        | .ok count => return .again { stats with
            pulled := stats.pulled + 1
            written := stats.written + count }
  else return .done (.ok { stats with cancelled := true })

/-- Carry out rounds until the run ends, at most `limit` of them. -/
def rounds (cursor : Cursor ω) (projector : Projector) (sink : Sink ω)
    (status : Status ω) : (limit : Nat) → StreamStats →
    StateM ω (Option (Except StreamError StreamStats))
  | 0, _ => return none
  | limit + 1, stats => do
      match ← round cursor projector sink status stats with
      | .again stats => rounds cursor projector sink status limit stats
      | .done result => return some result

/-- Run the stream. There is no result only if the cursor gives more records
than it promised. -/
def run (cursor : Cursor ω) (projector : Projector) (sink : Sink ω)
    (status : Status ω) : StateM ω (Option (Except StreamError StreamStats)) := do
  let limit := cursor.bound (← get) + 1
  rounds cursor projector sink status limit {}

end Stream

end GraphTable
