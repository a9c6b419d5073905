/-!
# Traversals

A traversal starts at all vertices or all edges of a graph, keeps the elements
with a label, and turns elements into maps.
-/

namespace GraphTable

/-- Where a traversal starts. -/
inductive Source where
  | vertices
  | edges
  deriving Repr, DecidableEq

/-- A step of a traversal after its start. -/
inductive Step where
  | hasLabel (label : String)
  /-- The properties of an element with its identifier and its label. -/
  | valueMap
  /-- The first values of the properties of an element with its identifier, its
  label and, for an edge, its two ends. -/
  | elementMap
  deriving Repr, DecidableEq

/-- Decide whether a step turns elements into maps. -/
def Step.projects : Step → Bool
  | .hasLabel _ => false
  | .valueMap => true
  | .elementMap => true

/-- A traversal: where it starts, and the steps that follow. -/
structure Traversal where
  source : Source
  steps : List Step
  deriving Repr, DecidableEq

namespace Traversal

/-- The vertices with a label as value maps. -/
def vertexScan (label : String) : Traversal :=
  ⟨.vertices, [.hasLabel label, .valueMap]⟩

/-- The edges with a label as element maps. -/
def edgeScan (label : String) : Traversal :=
  ⟨.edges, [.hasLabel label, .elementMap]⟩

end Traversal

end GraphTable
