import GraphTable.Graph.Basic
import GraphTable.Store.Error
import GraphTable.Traversal.Script

/-!
# Evaluation of traversals

Labels are compared exactly. A value map shows every property of a vertex as a
list; an element map shows the first value of each. The properties of an edge
are shown as they are, and its element map describes both ends. A property that
has the name of another entry replaces that entry where it stands.

No step may follow a step that turns elements into maps; a traversal without
such a step gives element maps.
-/

namespace GraphTable

namespace Vertex

/-- The entries that identify a vertex. -/
def tokens (vertex : Vertex) : Entries Json :=
  [("id", vertex.id), ("label", .string vertex.label)]

/-- A property of a vertex as a list. -/
def asList : Json → Json
  | .array items => .array items
  | value => .array [value]

def asFirst : Json → Json
  | .array [] => .null
  | .array (item :: _) => item
  | value => value

def valueMap (vertex : Vertex) : Json :=
  .object (Entries.insertAll vertex.tokens
    (vertex.properties.map fun (name, value) => (name, asList value)))

def elementMap (vertex : Vertex) : Json :=
  .object (Entries.insertAll vertex.tokens
    (vertex.properties.map fun (name, value) => (name, asFirst value)))

end Vertex

namespace Edge

/-- The entries that identify an edge. -/
def tokens (edge : Edge) : Entries Json :=
  [("id", edge.id), ("label", .string edge.label)]

def valueMap (edge : Edge) : Json :=
  .object (Entries.insertAll edge.tokens edge.properties)

end Edge

namespace Graph

/-- Describe an end of an edge: its identifier and, if the graph has a vertex
with it, the label of the first one. -/
def endpoint (graph : Graph) (id : Json) : Json :=
  match graph.vertices.find? fun vertex => vertex.id.same id with
  | some vertex => .object [("id", id), ("label", .string vertex.label)]
  | none => .object [("id", id)]

def edgeElementMap (graph : Graph) (edge : Edge) : Json :=
  .object (Entries.insertAll
    (edge.tokens ++
      [("IN", graph.endpoint edge.inVertex), ("OUT", graph.endpoint edge.outVertex)])
    edge.properties)

inductive Element where
  | vertex (vertex : Vertex)
  | edge (edge : Edge)

def Element.label : Element → String
  | .vertex v => v.label
  | .edge e => e.label

/-- All elements that a traversal starts with, in the order of the graph. -/
def start (graph : Graph) : Source → List Element
  | .vertices => graph.vertices.map .vertex
  | .edges => graph.edges.map .edge

def valueMap : Element → Json
  | .vertex v => v.valueMap
  | .edge e => e.valueMap

def elementMap (graph : Graph) : Element → Json
  | .vertex v => v.elementMap
  | .edge e => graph.edgeElementMap e

/-- Evaluate steps on elements. The error is a step that follows a projection. -/
def evaluateSteps (graph : Graph) (elements : List Element) :
    List Step → Except Step (List Json)
  | [] => .ok (elements.map graph.elementMap)
  | .hasLabel label :: rest =>
      graph.evaluateSteps (elements.filter fun element => element.label == label)
        rest
  | [.valueMap] => .ok (elements.map valueMap)
  | [.elementMap] => .ok (elements.map graph.elementMap)
  | .valueMap :: step :: _ => .error step
  | .elementMap :: step :: _ => .error step

def evaluate (graph : Graph) (traversal : Traversal) :
    Except StoreError (List Json) :=
  match graph.evaluateSteps (graph.start traversal.source) traversal.steps with
  | .ok records => .ok records
  | .error step => .error (.unsupportedQuery
      s!"step {step.display} after a projection in {traversal.script}")

def submit (graph : Graph) (script : String) : Except StoreError (List Json) :=
  match graph.queries.get? (Text.trim script) with
  | some records => .ok records
  | none => .error (.unsupportedQuery script)

end Graph

end GraphTable
