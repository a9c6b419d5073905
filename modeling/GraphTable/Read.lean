import GraphTable.Request.Basic
import GraphTable.Stream

/-!
# Reads

A read settles the kind of the table, opens a cursor over its elements or over
the results of its query, and streams the projected records into the sink. A
table without a known kind runs nothing: its read is left unhandled or, where
the reader is strict, fails.
-/

namespace GraphTable

structure ReadSummary where
  /-- The kind of the table; none when the read was left unhandled. -/
  kind : Option TableKind
  stats : StreamStats
  deriving Repr, DecidableEq

inductive ReadError where
  | request (error : RequestError)
  | store (error : StoreError)
  | sink (error : SinkError)

def StreamError.toReadError : StreamError → ReadError
  | .store error => .store error
  | .sink error => .sink error

/-- What is asked of a store: the script of a view as it is written, or a scan
for the elements with a label. -/
inductive Opening where
  | submit (script : String)
  | traverse (traversal : Traversal)
  deriving Repr, DecidableEq

namespace Read

variable {ω : Type}

/-- The summary of a read that ran nothing. -/
def unhandled : ReadSummary :=
  ⟨none, {}⟩

/-- What a request asks of the store, by its kind. -/
def opening (request : ReadRequest) : TableKind → Except RequestError Opening
  | .vertex => .ok (.traverse (.vertexScan request.label))
  | .edge => .ok (.traverse (.edgeScan request.label))
  | .view => request.schema.query.map .submit

def openCursor (store : Store ω) : Opening →
    StateM ω (Except StoreError (Cursor ω))
  | .submit script => store.submit script
  | .traverse traversal => store.traverse traversal

/-- Carry out a read. There is no result only if the cursor gives more records
than it promised. -/
def run (store : Store ω) (strict : Bool) (request : ReadRequest)
    (status : Status ω) (sink : Sink ω) (options : Dict String) :
    StateM ω (Option (Except ReadError ReadSummary)) := do
  match request.schema.kind with
  | .error error =>
      if strict then return some (.error (.request error))
      else return some (.ok unhandled)
  | .ok kind =>
      match opening request kind with
      | .error error => return some (.error (.request error))
      | .ok opening =>
          match ← openCursor store opening with
          | .error error => return some (.error (.store error))
          | .ok cursor =>
              let projector := Projector.build request.schema.columns kind
                (MatchOptions.ofOptions options)
              match ← Stream.run cursor projector sink status with
              | none => return none
              | some (.error error) => return some (.error error.toReadError)
              | some (.ok stats) => return some (.ok ⟨some kind, stats⟩)

end Read

end GraphTable
