import GraphTable.Entries
import GraphTable.Request.Kind

/-!
# Schemas of tables

A schema lists the columns of a table and carries the metadata of its catalog.
Three keys of the metadata matter here: the kind of the table, a label that
replaces the table's name, and the query of a view.
-/

namespace GraphTable

/-- The type of the values of a column. -/
inductive ColumnType where
  | utf8
  | int32
  | int64
  | float32
  | float64
  | bool
  | date
  | timestamp
  /-- Lists of values, which are kept whole. -/
  | list
  deriving Repr, DecidableEq

namespace ColumnType

def name : ColumnType → String
  | .utf8 => "utf8"
  | .int32 => "int32"
  | .int64 => "int64"
  | .float32 => "float32"
  | .float64 => "float64"
  | .bool => "bool"
  | .date => "date"
  | .timestamp => "timestamp"
  | .list => "list"

def all : List ColumnType :=
  [.utf8, .int32, .int64, .float32, .float64, .bool, .date, .timestamp, .list]

/-- The type with this name. -/
def ofName? (text : String) : Option ColumnType :=
  all.find? fun type => type.name == text

end ColumnType

structure Column where
  name : String
  type : ColumnType
  deriving Repr, DecidableEq

/-- The columns of a table and the metadata of its catalog. -/
structure Schema where
  columns : List Column
  metadata : Dict String

namespace Schema

/-- The metadata key of the kind of a table. -/
def kindKey : String := "componenttype"

/-- The metadata key of the label that replaces the name of a table. -/
def labelKey : String := "glabel"

/-- The metadata key of the query of a view. -/
def queryKey : String := "query"

def kind (schema : Schema) : Except RequestError TableKind :=
  match schema.metadata.get? kindKey with
  | some text => TableKind.parse text
  | none => .error (.missingMetadata kindKey)

/-- The label that replaces the name of the table, unless it is blank. -/
def labelOverride? (schema : Schema) : Option String :=
  match schema.metadata.get? labelKey with
  | some label => if Text.isAllBlank label then none else some label
  | none => none

def query (schema : Schema) : Except RequestError String :=
  match schema.metadata.get? queryKey with
  | some text => .ok text
  | none => .error (.missingMetadata queryKey)

end Schema

end GraphTable
