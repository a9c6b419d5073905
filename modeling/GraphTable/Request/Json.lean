import GraphTable.Request.Basic

/-!
# Requests as JSON

Every member of a record is written, also one that has its default value.
-/

namespace GraphTable

def Column.toJson (column : Column) : Json :=
  .object [("name", .string column.name), ("type", .string column.type.name)]

def Schema.toJson (schema : Schema) : Json :=
  .object
    [("fields", .array (schema.columns.map Column.toJson)),
      ("metadata", .object (schema.metadata.entries.map fun (key, value) =>
        (key, .string value)))]

def TableName.toJson (name : TableName) : Json :=
  .object [("schema_name", .string name.schema), ("table_name", .string name.table)]

def ReadRequest.toJson (request : ReadRequest) : Json :=
  .object
    [("query_id", .string request.queryId),
      ("table_name", request.table.toJson),
      ("schema", request.schema.toJson),
      ("split_id", match request.splitId with
        | some id => .string id
        | none => .null),
      ("constraints", .object request.constraints.entries)]

end GraphTable
