import GraphTable.Sink.Block

/-!
# Guarded sinks

A guarded sink passes candidates on to a block sink. It may reject the candidate
for a certain row, close the block sink after a number of candidates, and ask
for the query to be cancelled after a number of candidates.
-/

namespace GraphTable

structure SinkLimits where
  rejectAt : Option Nat := none
  closeAfter : Option Nat := none
  deriving Repr, DecidableEq

structure GuardedSink where
  inner : BlockSink
  limits : SinkLimits

namespace GuardedSink

def rejection : String :=
  "full"

/-- The error that refuses the next candidate unseen, if there is one. -/
def refusal? (sink : GuardedSink) : Option SinkError :=
  if sink.limits.rejectAt = some sink.inner.rowsWritten then
    some (.rejected sink.inner.rowsWritten rejection)
  else none

def hasReached (candidates : Nat) (limit : Option Nat) : Bool :=
  limit.any (· ≤ candidates)

/-- The sink after its block sink took a candidate. -/
def settle (sink : GuardedSink) (inner : BlockSink) : GuardedSink :=
  { sink with inner :=
      if hasReached inner.candidates sink.limits.closeAfter then inner.close
      else inner }

/-- Offer a candidate whose producer acts on the world `ω`. -/
def write {ω : Type} (sink : GuardedSink) (produce : StateM ω (Option Row)) :
    StateM ω (Except SinkError UInt64 × GuardedSink) := do
  match sink.refusal? with
  | some error => return (.error error, sink)
  | none =>
      let (result, inner) ← sink.inner.write produce
      return (result, sink.settle inner)

end GuardedSink

end GraphTable
