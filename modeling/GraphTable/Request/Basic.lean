import GraphTable.Json.Value
import GraphTable.Request.Schema

/-!
# Read requests

A request names a table, carries its schema, and passes on a split and
constraints that the reader itself does not interpret.
-/

namespace GraphTable

/-- The name of a table and of the schema it belongs to. -/
structure TableName where
  schema : String
  table : String
  deriving Repr, DecidableEq

/-- Write the two names with a point between them. -/
def TableName.text (name : TableName) : String :=
  name.schema ++ "." ++ name.table

/-- A request to read one part of a table. -/
structure ReadRequest where
  queryId : String
  table : TableName
  schema : Schema
  splitId : Option String
  constraints : Dict Json

/-- The label the elements of the table have in the graph: the label of the
metadata, or else the name of the table. -/
def ReadRequest.label (request : ReadRequest) : String :=
  request.schema.labelOverride?.getD request.table.table

end GraphTable
