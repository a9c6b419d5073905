import GraphTable.Request.Basic
import GraphTable.Shape.Medium

/-!
# The shape of requests

Requests and their parts are records; they are read alike from every medium.
A request without identifier gets a fresh one.
-/

namespace GraphTable

variable {ν : Type} {m : Type → Type}
variable [Monad m] [MonadExceptOf Fault m] [Medium ν m]

/-- Read the exact name of a kind. -/
def TableKind.read (value : ν) : m TableKind := do
  let known := TableKind.all.map TableKind.name
  let word ← Medium.variant known value
  match TableKind.ofName? word with
  | some kind => return kind
  | none => throw (.mismatch (.unknownVariant word known))

/-- Read the exact name of a type. -/
def ColumnType.read (value : ν) : m ColumnType := do
  let known := ColumnType.all.map ColumnType.name
  let word ← Medium.variant known value
  match ColumnType.ofName? word with
  | some type => return type
  | none => throw (.mismatch (.unknownVariant word known))

structure ColumnSlots where
  name : Option String := none
  type : Option ColumnType := none

/-- How a column is read. A column without type holds texts. -/
def Column.shape : RecordShape m ν ColumnSlots Column where
  name := "Field"
  slots :=
    [⟨"name", true, fun slots => slots.name.isSome, fun slots value =>
        return { slots with name := some (← Medium.string value) }⟩,
      ⟨"type", false, fun slots => slots.type.isSome, fun slots value =>
        return { slots with type := some (← ColumnType.read value) }⟩]
  blank := {}
  build slots := do
    let name ← requireField "name" slots.name
    return ⟨name, slots.type.getD .utf8⟩

structure SchemaSlots where
  columns : Option (List Column) := none
  metadata : Option (Dict String) := none

def Schema.shape : RecordShape m ν SchemaSlots Schema where
  name := "TableSchema"
  slots :=
    [⟨"fields", true, fun slots => slots.columns.isSome, fun slots value =>
        return { slots with
          columns := some (← Shape.list Column.shape.read value) }⟩,
      ⟨"metadata", false, fun slots => slots.metadata.isSome, fun slots value =>
        return { slots with
          metadata := some (← Shape.dict Medium.string value) }⟩]
  blank := {}
  build slots := do
    let columns ← requireField "fields" slots.columns
    return ⟨columns, slots.metadata.getD Dict.empty⟩

structure TableNameSlots where
  schema : Option String := none
  table : Option String := none

def TableName.shape : RecordShape m ν TableNameSlots TableName where
  name := "TableName"
  slots :=
    [⟨"schema_name", true, fun slots => slots.schema.isSome, fun slots value =>
        return { slots with schema := some (← Medium.string value) }⟩,
      ⟨"table_name", true, fun slots => slots.table.isSome, fun slots value =>
        return { slots with table := some (← Medium.string value) }⟩]
  blank := {}
  build slots := do
    let schema ← requireField "schema_name" slots.schema
    let table ← requireField "table_name" slots.table
    return ⟨schema, table⟩

structure ReadRequestSlots where
  queryId : Option String := none
  table : Option TableName := none
  schema : Option Schema := none
  splitId : Option (Option String) := none
  constraints : Option (Dict Json) := none

def ReadRequest.shape (freshId : String) :
    RecordShape m ν ReadRequestSlots ReadRequest where
  name := "ReadRequest"
  slots :=
    [⟨"query_id", false, fun slots => slots.queryId.isSome, fun slots value =>
        return { slots with queryId := some (← Medium.string value) }⟩,
      ⟨"table_name", true, fun slots => slots.table.isSome, fun slots value =>
        return { slots with table := some (← TableName.shape.read value) }⟩,
      ⟨"schema", true, fun slots => slots.schema.isSome, fun slots value =>
        return { slots with schema := some (← Schema.shape.read value) }⟩,
      ⟨"split_id", false, fun slots => slots.splitId.isSome, fun slots value =>
        return { slots with
          splitId := some (← Shape.optional Medium.string value) }⟩,
      ⟨"constraints", false, fun slots => slots.constraints.isSome,
        fun slots value =>
          return { slots with
            constraints := some (← Shape.dict Medium.json value) }⟩]
  blank := {}
  build slots := do
    let table ← requireField "table_name" slots.table
    let schema ← requireField "schema" slots.schema
    return ⟨slots.queryId.getD freshId, table, schema, slots.splitId.getD none,
      slots.constraints.getD Dict.empty⟩

def ReadRequest.read (freshId : String) (value : ν) : m ReadRequest :=
  (ReadRequest.shape freshId).read value

end GraphTable
