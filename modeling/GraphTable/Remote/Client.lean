import GraphTable.Config.Basic
import GraphTable.Remote.Connection
import GraphTable.Remote.Request
import GraphTable.Store.Puller

/-!
# Clients of a remote store

Each script has a connection of its own. A client gives up after its waiting
time, both when it connects and when it waits for a response.
-/

namespace GraphTable

/-- A client: the address of the store, and its waiting time in milliseconds. -/
structure Client where
  endpoint : String
  wait : Nat
  deriving Repr, DecidableEq

/-- What comes of an attempt to connect. -/
inductive Attempt where
  | refused (cause : String)
  /-- The other end does not answer as long as the client waits. -/
  | unanswered
  /-- The request cannot be sent over the connection. -/
  | unsent (cause : String)
  /-- A connection on which the given events will happen after a request. -/
  | established (incoming : List Event)

namespace Client

def ofConfig (config : Config) : Client :=
  ⟨config.endpoint, config.timeout⟩

/-- Submit a request over an attempt to connect. Gives the bytes that are sent
and the connection to read from. -/
def submit (client : Client) (request : EvalRequest) :
    Attempt → Except StoreError (List UInt8 × Connection)
  | .refused cause => .error (.connection client.endpoint cause)
  | .unanswered => .error (.timeout client.wait)
  | .unsent cause => .error (.transport cause)
  | .established incoming => .ok (request.encode, .opened incoming)

/-- The next record on a connection of the client. -/
def next (client : Client) (connection : Connection) :
    Except StoreError (Option Json) × Connection :=
  connection.next client.wait

def puller (client : Client) : Puller Connection :=
  ⟨client.next, Connection.bound⟩

end Client

end GraphTable
