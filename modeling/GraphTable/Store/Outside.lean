import GraphTable.Sink.Block
import GraphTable.Store.Error
import GraphTable.Traversal.Script

/-!
# The outside world

A read deals with a store, a cursor over the results of a query, a sink and the
status of the query. Each of them acts on a world `ω` that they may share, so
that any of them may influence the others.
-/

namespace GraphTable

/-- A cursor over results: the next record, or none after the last one. -/
structure Cursor (ω : Type) where
  next : StateM ω (Except StoreError (Option Json))
  /-- A number of records that the cursor does not exceed. -/
  bound : ω → Nat

/-- A sink for rows: it is offered a producer of a row and tells in a word how
many rows it wrote. -/
structure Sink (ω : Type) where
  write : StateM ω (Option Row) → StateM ω (Except SinkError UInt64)

/-- The status of a query: whether it is still wanted. -/
structure Status (ω : Type) where
  isRunning : StateM ω Bool

/-- A store: scripts and traversals open cursors. -/
structure Store (ω : Type) where
  submit : String → StateM ω (Except StoreError (Cursor ω))
  traverse : Traversal → StateM ω (Except StoreError (Cursor ω))

/-- A store that runs traversals by their scripts. -/
def Store.ofSubmit {ω : Type}
    (submit : String → StateM ω (Except StoreError (Cursor ω))) : Store ω where
  submit := submit
  traverse traversal := submit traversal.script

end GraphTable
