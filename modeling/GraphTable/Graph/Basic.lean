import GraphTable.Json.Value
import GraphTable.Text.Blank

/-!
# Property graphs in memory

A graph holds vertices and edges in the order in which they were added, and the
results of scripts that were registered. Scripts are told apart by their text
without surrounding white space.
-/

namespace GraphTable

structure Vertex where
  id : Json
  label : String
  properties : Entries Json

/-- An edge from one vertex to another, which need not be in the graph. -/
structure Edge where
  id : Json
  label : String
  outVertex : Json
  inVertex : Json
  properties : Entries Json

/-- A graph with the results of registered scripts. -/
structure Graph where
  vertices : List Vertex
  edges : List Edge
  queries : Dict (List Json)

namespace Graph

def empty : Graph :=
  ⟨[], [], Dict.empty⟩

/-- The members of an object; other values have none. -/
def propertiesOf : Json → Entries Json
  | .object members => members
  | _ => []

def addVertex (graph : Graph) (vertex : Vertex) : Graph :=
  { graph with vertices := graph.vertices ++ [vertex] }

def addEdge (graph : Graph) (edge : Edge) : Graph :=
  { graph with edges := graph.edges ++ [edge] }

def registerQuery (graph : Graph) (script : String) (results : List Json) : Graph :=
  { graph with queries := graph.queries.insert (Text.trim script) results }

end Graph

end GraphTable
