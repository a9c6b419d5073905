import GraphTable.Json.Value

/-!
# Rows

A row holds a value for each requested column, in the order of the columns. A
name may occur more than once.
-/

namespace GraphTable

/-- The values of a row under the names of their columns. -/
structure Row where
  cells : Entries Json

namespace Row

def empty : Row :=
  ⟨[]⟩

def push (row : Row) (name : String) (value : Json) : Row :=
  ⟨row.cells ++ [(name, value)]⟩

def get? (row : Row) (name : String) : Option Json :=
  Entries.lookup? name row.cells

end Row

end GraphTable
