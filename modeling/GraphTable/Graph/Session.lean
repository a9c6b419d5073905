import GraphTable.Graph.Evaluate

/-!
# Sessions with a graph

A session changes a graph and opens named cursors over results. An open cursor
keeps the results it was opened with, whatever happens to the graph.
-/

namespace GraphTable

/-- A graph, and the records that each open cursor still has to give. -/
structure GraphSession where
  graph : Graph
  cursors : Dict (List Json)

/-- What can be done in a session. -/
inductive GraphCommand where
  | addVertex (vertex : Vertex)
  | addEdge (edge : Edge)
  | registerQuery (script : String) (results : List Json)
  | evaluate (traversal : Traversal)
  | submit (cursor : String) (script : String)
  | traverse (cursor : String) (traversal : Traversal)
  | next (cursor : String)

/-- What a command answers. -/
inductive GraphReply where
  | done
  | records (records : List Json)
  | opened
  | record (record : Json)
  | finished
  | noSuchCursor
  | failed (error : StoreError)

namespace GraphSession

def initial : GraphSession :=
  ⟨Graph.empty, Dict.empty⟩

/-- Open a cursor over results, or report why there are none. -/
def openCursor (session : GraphSession) (cursor : String) :
    Except StoreError (List Json) → GraphReply × GraphSession
  | .ok records =>
      (.opened, { session with cursors := session.cursors.insert cursor records })
  | .error error => (.failed error, session)

def step (session : GraphSession) : GraphCommand → GraphReply × GraphSession
  | .addVertex vertex =>
      (.done, { session with graph := session.graph.addVertex vertex })
  | .addEdge edge =>
      (.done, { session with graph := session.graph.addEdge edge })
  | .registerQuery script results =>
      (.done, { session with graph := session.graph.registerQuery script results })
  | .evaluate traversal =>
      match session.graph.evaluate traversal with
      | .ok records => (.records records, session)
      | .error error => (.failed error, session)
  | .submit cursor script =>
      session.openCursor cursor (session.graph.submit script)
  | .traverse cursor traversal =>
      session.openCursor cursor (session.graph.evaluate traversal)
  | .next cursor =>
      match session.cursors.get? cursor with
      | none => (.noSuchCursor, session)
      | some [] => (.finished, session)
      | some (record :: rest) =>
          (.record record, { session with
            cursors := session.cursors.insert cursor rest })

/-- Carry out commands in order and collect the replies. -/
def run (session : GraphSession) : List GraphCommand →
    List GraphReply × GraphSession
  | [] => ([], session)
  | command :: rest =>
      let (reply, session) := session.step command
      let (replies, session) := session.run rest
      (reply :: replies, session)

end GraphSession

end GraphTable
