import GraphTable.Graph.Evaluate
import GraphTable.Read
import GraphTable.Remote.Client
import GraphTable.Sink.Guarded
import GraphTable.Store.Puller

/-!
# Rehearsals

A rehearsal is a world in which streams and reads can be carried out: one cursor
that counts its pulls, one status that counts its checks, and one guarded sink.
The query counts as cancelled once the sink has seen a number of candidates; it
is also no longer wanted after a number of checks.
-/

namespace GraphTable

/-- When the query of a run stops being wanted. -/
structure StatusPlan where
  cancelled : Bool := false
  runningChecks : Option Nat := none
  cancelAfter : Option Nat := none
  deriving Repr, DecidableEq

/-- The plan after the sink has seen a number of candidates. -/
def StatusPlan.after (plan : StatusPlan) (candidates : Nat) : StatusPlan :=
  { plan with cancelled :=
      plan.cancelled || GuardedSink.hasReached candidates plan.cancelAfter }

/-- The world of a run with a cursor of states `κ`. -/
structure Rehearsal (κ : Type) where
  cursor : κ
  sink : GuardedSink
  plan : StatusPlan
  pulls : Nat := 0
  checks : Nat := 0
  submitted : List String := []
  sent : List (List UInt8) := []

namespace Rehearsal

variable {κ : Type}

def cursorOf (puller : Puller κ) : Cursor (Rehearsal κ) where
  next world :=
    let (answer, cursor) := puller.next world.cursor
    (answer, { world with cursor := cursor, pulls := world.pulls + 1 })
  bound world := puller.bound world.cursor

/-- Decide whether the next check finds the query running. -/
def isWanted (world : Rehearsal κ) : Bool :=
  !world.plan.cancelled && !world.plan.runningChecks.any (· ≤ world.checks)

def status : Status (Rehearsal κ) where
  isRunning world := (world.isWanted, { world with checks := world.checks + 1 })

def keepSink (sink : GuardedSink) (world : Rehearsal κ) : Rehearsal κ :=
  { world with
    sink := sink
    plan := world.plan.after sink.inner.candidates }

def sinkOf : Sink (Rehearsal κ) where
  write produce := do
    let (result, sink) ← (← get).sink.write produce
    modify (keepSink sink)
    return result

def openCursor (puller : Puller κ) (cursor : κ) :
    StateM (Rehearsal κ) (Except StoreError (Cursor (Rehearsal κ))) := do
  modify fun world => { world with cursor := cursor }
  return .ok (cursorOf puller)

/-- Open a cursor over records, unless there is an error instead. -/
def openRecords : Except StoreError (List Json) →
    StateM (Rehearsal (List Json))
      (Except StoreError (Cursor (Rehearsal (List Json))))
  | .ok records => openCursor .records records
  | .error error => return .error error

def graphStore (graph : Graph) : Store (Rehearsal (List Json)) where
  submit script := openRecords (graph.submit script)
  traverse traversal := openRecords (graph.evaluate traversal)

/-- A store that notes the scripts submitted to it and has the same answer for
all of them: the cursor of the rehearsal, or an error. -/
def scriptedStore (failure : Option StoreError) :
    Store (Rehearsal FalteringRecords) :=
  .ofSubmit fun script => do
    modify fun world => { world with submitted := world.submitted ++ [script] }
    match failure with
    | some error => return .error error
    | none => return .ok (cursorOf FalteringRecords.puller)

/-- A remote store that is reached by one attempt to connect. Requests have the
given identifier. -/
def remoteStore (client : Client) (requestId : String) (attempt : Attempt) :
    Store (Rehearsal Connection) :=
  .ofSubmit fun script => do
    match client.submit ⟨requestId, script⟩ attempt with
    | .error error => return .error error
    | .ok (message, connection) =>
        modify fun world => { world with sent := world.sent ++ [message] }
        openCursor client.puller connection

def stream (puller : Puller κ) (projector : Projector) (world : Rehearsal κ) :
    Option (Except StreamError StreamStats) × Rehearsal κ :=
  Stream.run (cursorOf puller) projector sinkOf status world

/-- Run the stream once for each plan, with one cursor and with a new sink for
each run. -/
def streams (puller : Puller κ) (projector : Projector) (sink : GuardedSink) :
    κ → List StatusPlan →
    List (Option (Except StreamError StreamStats) × Rehearsal κ)
  | _, [] => []
  | cursor, plan :: rest =>
      let (result, world) := stream puller projector { cursor, sink, plan }
      (result, world) :: streams puller projector sink world.cursor rest

def read (store : Store (Rehearsal κ)) (strict : Bool) (request : ReadRequest)
    (options : Dict String) (world : Rehearsal κ) :
    Option (Except ReadError ReadSummary) × Rehearsal κ :=
  Read.run store strict request status sinkOf options world

end Rehearsal

end GraphTable
