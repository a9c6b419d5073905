import GraphTable.Json.Value
import GraphTable.Request.Kind

/-!
# Records of a store

A store answers with JSON values. For tables of vertices and edges an object is
a map of properties; every other value, and every value of a view, is taken as
it is.
-/

namespace GraphTable

/-- A value of a store as a projector takes it. -/
inductive Record where
  | properties (members : Entries Json)
  | generic (value : Json)

def Record.wrap : TableKind → Json → Record
  | .view, value => .generic value
  | .vertex, .object members => .properties members
  | .edge, .object members => .properties members
  | .vertex, value => .generic value
  | .edge, value => .generic value

end GraphTable
