import GraphTable.Proofs.Sink.Blocks

/-!
# Closing a sink

Closing a sink is final and loses nothing.  A closed sink stays as it is,
whatever it is asked: another close finds no open block, and a write is refused
before its producer is run.
-/

namespace GraphTable

variable {ω : Type}

/-- What a sink is asked to do, where the producer of a candidate acts on the
world. -/
inductive SinkTask (ω : Type) where
  | write (produce : StateM ω (Option Row))
  | close

/-- How a sink answers that refuses every candidate. -/
def SinkTask.refused (error : SinkError) :
    SinkTask ω → Option (Except SinkError UInt64)
  | .write _ => some (.error error)
  | .close => none

namespace BlockSink

variable {sink : BlockSink}

/-- Carry out a task.  Only a write is answered. -/
def attend (sink : BlockSink) :
    SinkTask ω → StateM ω (Option (Except SinkError UInt64) × BlockSink)
  | .write produce => do
      let (answer, after) ← sink.write produce
      return (some answer, after)
  | .close => return (none, sink.close)

def attendAll (sink : BlockSink) : List (SinkTask ω) →
    StateM ω (List (Option (Except SinkError UInt64)) × BlockSink)
  | [] => return ([], sink)
  | task :: tasks => do
      let (answer, next) ← sink.attend task
      let (answers, last) ← next.attendAll tasks
      return (answer :: answers, last)

theorem attend_write (produce : StateM ω (Option Row)) (world : ω) :
    sink.attend (.write produce) world =
      let ((answer, after), next) := sink.write produce world
      ((some answer, after), next) :=
  rfl

variable {task : SinkTask ω} {tasks first second : List (SinkTask ω)}
  {answer : Option (Except SinkError UInt64)}
  {answers before behind : List (Option (Except SinkError UInt64))}
  {next last : BlockSink} {world between after : ω}

theorem attendAll_cons
    (attended : sink.attend task world = ((answer, next), between))
    (ranOn : next.attendAll tasks between = ((answers, last), after)) :
    sink.attendAll (task :: tasks) world =
      ((answer :: answers, last), after) := by
  have unfolded : sink.attendAll (task :: tasks) world =
      let ((answer, next), between) := sink.attend task world
      let ((answers, last), after) := next.attendAll tasks between
      ((answer :: answers, last), after) :=
    rfl
  rw [unfolded, attended]
  simp only [ranOn]

theorem attendAll_append
    (ran : sink.attendAll first world = ((before, next), between))
    (ranOn : next.attendAll second between = ((behind, last), after)) :
    sink.attendAll (first ++ second) world =
      ((before ++ behind, last), after) := by
  induction first generalizing sink world before with
  | nil =>
      cases ran
      exact ranOn
  | cons task first ih =>
      rcases attended : sink.attend task world with ⟨⟨answer, middle⟩, reached⟩
      rcases ranFirst : middle.attendAll first reached with ⟨⟨answers, _⟩, _⟩
      rw [attendAll_cons attended ranFirst] at ran
      cases ran
      exact attendAll_cons attended (ih ranFirst)

theorem write_of_open (isOpen : sink.isClosed = false)
    (produce : StateM ω (Option Row)) (world : ω) :
    sink.write produce world =
      (sink.offer (produce world).1, (produce world).2) := by
  unfold write
  rw [isOpen]
  rfl

/-- An open sink runs every producer once, in order, and takes what it makes. -/
theorem attendAll_of_open (isOpen : sink.isClosed = false)
    (producers : List (StateM ω (Option Row))) (world : ω) :
    sink.attendAll (producers.map .write) world =
      (((producers.mapM id world).1.map fun candidate =>
          some (.ok (.ofNat candidate.toList.length)),
        sink.serveAll ((producers.mapM id world).1.map .write)),
          (producers.mapM id world).2) := by
  induction producers generalizing sink world with
  | nil => rfl
  | cons produce producers ih =>
      obtain ⟨next, offered, took⟩ := offer_took isOpen (produce world).1
      have attended : sink.attend (.write produce) world =
          ((some (.ok (.ofNat (produce world).1.toList.length)), next),
            (produce world).2) := by
        rw [attend_write, write_of_open isOpen, offered]
      have nextEq : sink.serve (.write (produce world).1) = next := by
        rw [serve, offered]
      rw [List.map_cons, attendAll_cons attended (ih took.isOpen _), ← nextEq,
        List.mapM_cons]
      rfl

/-- A closed sink does not run a producer. -/
theorem write_of_closed (closed : sink.isClosed = true)
    (produce : StateM ω (Option Row)) (world : ω) :
    sink.write produce world =
      ((.error (.closed sink.rowsWritten), sink), world) := by
  unfold write
  rw [if_pos closed, offer_of_closed closed]
  rfl

theorem sealCurrent_current (sink : BlockSink) :
    sink.sealCurrent.current.rows = [] := by
  by_cases empty : sink.current.rows = []
  · rw [sealCurrent_of_empty empty, empty]
  · rw [sealCurrent_of_some empty]

/-- A close leaves no block to seal. -/
theorem sealCurrent_close (sink : BlockSink) :
    sink.close.sealCurrent = sink.close :=
  sealCurrent_of_empty sink.sealCurrent_current

theorem close_close (sink : BlockSink) : sink.close.close = sink.close := by
  rw [close, sealCurrent_close]
  rfl

/-- A close does not change how the rows are cut into blocks. -/
theorem close_blocks (sink : BlockSink) : sink.close.blocks = sink.blocks := by
  rw [blocks, sealCurrent_close]
  rfl

theorem attend_close (sink : BlockSink) (task : SinkTask ω) (world : ω) :
    sink.close.attend task world =
      ((task.refused (.closed sink.rowsWritten), sink.close), world) := by
  cases task with
  | write produce =>
      have refused := write_of_closed sink.close_counts.2 produce world
      have written : sink.close.rowsWritten = sink.rowsWritten :=
        sink.sealCurrent_counts.1
      rw [attend_write, refused, written]
      rfl
  | close =>
      rw [attend, close_close]
      rfl

/-- A closed sink attends to any tasks without a change to it or to the world. -/
theorem attendAll_close (sink : BlockSink) (tasks : List (SinkTask ω))
    (world : ω) :
    sink.close.attendAll tasks world =
      ((tasks.map (SinkTask.refused (.closed sink.rowsWritten)), sink.close),
        world) := by
  induction tasks with
  | nil => rfl
  | cons task tasks ih => exact attendAll_cons (sink.attend_close task world) ih

/-- Whatever a new sink is asked to write before its first close, and whatever
it is asked to do behind it: it ends as it is right after that close, every later
write is refused with the number of rows accepted before the close, and no later
producer acts on the world.  The close keeps all rows and the blocks that they
are cut into. -/
theorem close_final (blockSize : Nat)
    (producers : List (StateM ω (Option Row))) (later : List (SinkTask ω))
    (world : ω) :
    let rows := (producers.mapM id world).1.filterMap id
    let ((answers, sink), between) :=
      (new blockSize).attendAll (producers.map .write) world
    (new blockSize).attendAll (producers.map .write ++ .close :: later) world =
        ((answers ++ none :: later.map (SinkTask.refused (.closed rows.length)),
          sink.close), between) ∧
      sink.close.rows = rows ∧ sink.close.blocks = sink.blocks := by
  intro rows
  have isOpen : (new blockSize).isClosed = false := rfl
  have attended := attendAll_of_open isOpen producers world
  have took := serveAll_took isOpen (producers.mapM id world).1
  rw [attended]
  have written : ((new blockSize).serveAll
      ((producers.mapM id world).1.map .write)).rowsWritten = rows.length :=
    took.written.trans (Nat.zero_add _)
  refine ⟨attendAll_append attended ?_, ?_, close_blocks _⟩
  · rw [← written]
    exact attendAll_cons rfl (attendAll_close _ later _)
  · exact (sealCurrent_rows _).trans (took.rows.trans (List.nil_append _))

end BlockSink

end GraphTable
