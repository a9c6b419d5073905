import GraphTable.Table.Row

/-!
# Block sinks

A block sink numbers the rows it accepts and cuts them into blocks of a fixed
size. It is offered candidates: a producer that makes a row or declines. Closing
seals the open block and refuses every later candidate.
-/

namespace GraphTable

/-- Rows that follow each other, and the number of the first one. -/
structure Block where
  firstRow : Nat
  rows : List Row

/-- Why a sink did not take a candidate. -/
inductive SinkError where
  | closed (row : Nat)
  | rejected (row : Nat) (reason : String)
  deriving Repr, DecidableEq

def SinkError.message : SinkError → String
  | .closed row => s!"Sink is closed; row {row} was not written"
  | .rejected row reason => s!"Sink rejected row {row}: {reason}"

/-- The blocks that are sealed, the block that is open, and the counts of rows
accepted and of candidates offered. -/
structure BlockSink where
  blockSize : Nat
  current : Block
  sealedBlocks : List Block
  rowsWritten : Nat
  candidates : Nat
  isClosed : Bool

namespace BlockSink

/-- A sink without rows. Blocks hold one row at least. -/
def new (blockSize : Nat) : BlockSink :=
  ⟨max blockSize 1, ⟨0, []⟩, [], 0, 0, false⟩

def rows (sink : BlockSink) : List Row :=
  sink.sealedBlocks.flatMap Block.rows ++ sink.current.rows

/-- Seal the open block unless it is empty. -/
def sealCurrent (sink : BlockSink) : BlockSink :=
  if sink.current.rows.isEmpty then sink
  else { sink with
    current := ⟨sink.rowsWritten, []⟩
    sealedBlocks := sink.sealedBlocks ++ [sink.current] }

/-- Seal the open block and refuse further candidates. -/
def close (sink : BlockSink) : BlockSink :=
  { sink.sealCurrent with isClosed := true }

/-- All accepted rows, cut into blocks. -/
def blocks (sink : BlockSink) : List Block :=
  sink.sealCurrent.sealedBlocks

def count (sink : BlockSink) : BlockSink :=
  { sink with candidates := sink.candidates + 1 }

/-- Accept a row, and seal the open block when it is full. -/
def accept (sink : BlockSink) (row : Row) : BlockSink :=
  let current : Block :=
    ⟨sink.current.firstRow, sink.current.rows ++ [row]⟩
  let sink := { sink with
    current := current
    rowsWritten := sink.rowsWritten + 1 }
  if sink.blockSize ≤ current.rows.length then sink.sealCurrent else sink

/-- Offer a candidate that is already known. -/
def offer (sink : BlockSink) (candidate : Option Row) :
    Except SinkError UInt64 × BlockSink :=
  if sink.isClosed then (.error (.closed sink.rowsWritten), sink)
  else match candidate with
    | none => (.ok 0, sink.count)
    | some row => (.ok 1, sink.count.accept row)

/-- Offer a candidate whose producer acts on the world `ω`. A closed sink does
not run the producer. -/
def write {ω : Type} (sink : BlockSink) (produce : StateM ω (Option Row)) :
    StateM ω (Except SinkError UInt64 × BlockSink) :=
  if sink.isClosed then return sink.offer none
  else return sink.offer (← produce)

end BlockSink

end GraphTable
