import GraphTable.Graph.Evaluate

/-!
# Scans of a graph

A scan for a label shows every element with the label, once and in the order of
the graph: vertices as value maps and edges as element maps.
-/

namespace GraphTable

def Source.scan (label : String) : Source → Traversal
  | .vertices => .vertexScan label
  | .edges => .edgeScan label

namespace Graph

def elementsWith (graph : Graph) (source : Source) (label : String) :
    List Element :=
  (graph.start source).filter fun element => element.label == label

def members (graph : Graph) : Element → Entries Json
  | .vertex vertex =>
      Entries.insertAll vertex.tokens
        (vertex.properties.map fun entry => (entry.1, Vertex.asList entry.2))
  | .edge edge =>
      Entries.insertAll
        (edge.tokens ++ [("IN", graph.endpoint edge.inVertex),
          ("OUT", graph.endpoint edge.outVertex)])
        edge.properties

def record (graph : Graph) (element : Element) : Json :=
  .object (graph.members element)

/-- Where traversals find an element. -/
def Element.source : Element → Source
  | .vertex _ => .vertices
  | .edge _ => .edges

theorem source_of_mem_start {graph : Graph} {source : Source}
    {element : Element} (mem : element ∈ graph.start source) :
    element.source = source := by
  cases source with
  | vertices =>
      obtain ⟨vertex, -, rfl⟩ := List.mem_map.mp mem
      rfl
  | edges =>
      obtain ⟨edge, -, rfl⟩ := List.mem_map.mp mem
      rfl

theorem source_of_mem {graph : Graph} {source : Source} {label : String}
    {element : Element} (mem : element ∈ graph.elementsWith source label) :
    element.source = source :=
  source_of_mem_start (List.mem_filter.mp mem).1

theorem evaluate_scan (graph : Graph) (source : Source) (label : String) :
    graph.evaluate (source.scan label) =
      .ok ((graph.elementsWith source label).map graph.record) := by
  cases source with
  | vertices =>
      have shown : (graph.elementsWith .vertices label).map valueMap =
          (graph.elementsWith .vertices label).map graph.record := by
        refine List.map_congr_left fun element mem => ?_
        have isVertex := source_of_mem mem
        cases element with
        | vertex vertex => rfl
        | edge edge => cases isVertex
      rw [← shown]
      rfl
  | edges =>
      have shown : (graph.elementsWith .edges label).map graph.elementMap =
          (graph.elementsWith .edges label).map graph.record := by
        refine List.map_congr_left fun element mem => ?_
        have isEdge := source_of_mem mem
        cases element with
        | vertex vertex => cases isEdge
        | edge edge => rfl
      rw [← shown]
      rfl

end Graph

end GraphTable
