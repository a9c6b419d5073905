import GraphTable.Remote.Response
import GraphTable.Text.Utf8

/-!
# Connections to a remote store

A connection is read lazily: an event is taken only when no record is left of
the response before it, and none is taken after the last response, the end of
the connection or a response that is an error. Waiting in vain loses nothing and
may be tried again. A binary message that is not text is reported and passed
over.
-/

namespace GraphTable

/-- What happens on a connection. -/
inductive Event where
  | text (message : String)
  | binary (message : List UInt8)
  /-- A message that only keeps the connection alive. -/
  | control
  /-- The other end takes its leave. -/
  | close
  /-- The connection breaks, or the other end violates the protocol. -/
  | broken (cause : String)
  /-- Nothing arrives as long as the client waits. -/
  | silence

/-- The events to come, the records at hand, and whether the connection is done
with. -/
structure Connection where
  incoming : List Event
  buffered : List Json
  finished : Bool

/-- What an event means to whoever waits for records. -/
inductive Arrival where
  | nothing
  | response (response : Response)
  /-- A failure, and whether it finishes the connection. -/
  | failure (error : StoreError) (finishes : Bool)

namespace Arrival

def ofText (message : String) : Arrival :=
  match Response.decode message with
  | .ok answer => .response answer
  | .error error => .failure error true

/-- The error of a connection that ends too early. -/
def endedEarly : StoreError :=
  .malformedResponse "connection closed before the final response"

/-- The meaning of an event to a client that waits for some milliseconds. -/
def ofEvent (wait : Nat) : Event → Arrival
  | .text message => ofText message
  | .binary message =>
      match Text.decodeUtf8 message with
      | .ok message => ofText message
      | .error fault => .failure (.malformedResponse fault.message) false
  | .control => .nothing
  | .close => .failure endedEarly true
  | .broken cause => .failure (.transport cause) true
  | .silence => .failure (.timeout wait) false

/-- The number of records that arrive. -/
def recordCount : Arrival → Nat
  | .response answer => answer.records.length
  | _ => 0

end Arrival

namespace Connection

/-- A connection on which nothing was received yet. -/
def opened (incoming : List Event) : Connection :=
  ⟨incoming, [], false⟩

/-- Take events until there is something to answer. -/
def receive (wait : Nat) : List Event →
    Except StoreError (Option Json) × Connection
  | [] => (.error Arrival.endedEarly, ⟨[], [], true⟩)
  | event :: rest =>
      match Arrival.ofEvent wait event with
      | .nothing => receive wait rest
      | .failure error finishes => (.error error, ⟨rest, [], finishes⟩)
      | .response ⟨record :: records, isLast⟩ =>
          (.ok (some record), ⟨rest, records, isLast⟩)
      | .response ⟨[], true⟩ => (.ok none, ⟨rest, [], true⟩)
      | .response ⟨[], false⟩ => receive wait rest

/-- The next record; none after the last one. -/
def next (wait : Nat) (connection : Connection) :
    Except StoreError (Option Json) × Connection :=
  match connection.buffered with
  | record :: records =>
      (.ok (some record), { connection with buffered := records })
  | [] =>
      if connection.finished then (.ok none, connection)
      else receive wait connection.incoming

/-- A number of records that the connection does not exceed. -/
def bound (connection : Connection) : Nat :=
  connection.buffered.length +
    connection.incoming.foldl
      (fun count event => count + (Arrival.ofEvent 0 event).recordCount) 0

end Connection

end GraphTable
