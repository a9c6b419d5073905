import GraphTable.Read

/-!
# Logs of calls to the outside

A stream or a read acts on the world only by calls to its store, its cursor, its
sink and its status.  In a logged world each of these calls leaves a contact
behind, with the answer that it got, and acts as it does without a log.  Beyond
the calls of a stream, contacts tell what the store was asked, and they hold the
producers that the sink was offered.
-/

namespace GraphTable

variable {ω α : Type}

/-- A call to the outside with its answer.  A sink is offered a producer, which
it may run at any time, more than once or not at all. -/
inductive Contact (ω : Type) where
  | opened (opening : Opening) (failure : Option StoreError)
  | checked (running : Bool)
  | pulled (answer : Except StoreError (Option Json))
  | offered (produce : StateM ω (Option Row)) (answer : Except SinkError UInt64)

/-- What a contact asked of the store, if it was one with the store. -/
def Contact.opening? : Contact ω → Option Opening
  | .opened opening _ => some opening
  | _ => none

/-- The error that a contact with a cursor or a sink ended in. -/
def Contact.error? : Contact ω → Option StreamError
  | .pulled (.error error) => some (.store error)
  | .offered _ (.error error) => some (.sink error)
  | _ => none

/-- A world with the contacts that were made in it so far. -/
structure Logged (ω : Type) where
  world : ω
  log : List (Contact ω)

namespace Logged

def act (action : StateM ω α) (contact : α → Contact ω) :
    StateM (Logged ω) α :=
  fun logged =>
    let (answer, world) := action logged.world
    (answer, ⟨world, logged.log ++ [contact answer]⟩)

def unlogged (action : StateM (Logged ω) α) (log : List (Contact ω)) :
    StateM ω α :=
  fun world =>
    let (answer, logged) := action ⟨world, log⟩
    (answer, logged.world)

theorem act_of_eq {action : StateM ω α} {world after : ω} {answer : α}
    (acted : action world = (answer, after)) (contact : α → Contact ω)
    (log : List (Contact ω)) :
    act action contact ⟨world, log⟩ =
      (answer, ⟨after, log ++ [contact answer]⟩) := by
  simp only [act, acted]

end Logged

def Cursor.logged (cursor : Cursor ω) : Cursor (Logged ω) where
  next := Logged.act cursor.next .pulled
  bound logged := cursor.bound logged.world

def Sink.logged (sink : Sink ω) : Sink (Logged ω) where
  write produce logged :=
    let produce := Logged.unlogged produce logged.log
    Logged.act (sink.write produce) (.offered produce) logged

def Status.logged (status : Status ω) : Status (Logged ω) where
  isRunning := Logged.act status.isRunning .checked

/-- The error of a store that opened no cursor. -/
def StoreError.ofAnswer? : Except StoreError (Cursor ω) → Option StoreError
  | .ok _ => none
  | .error error => some error

/-- Ask a store for a cursor and log the contact.  The cursor logs its pulls. -/
def Store.openLogged (store : Store ω) (opening : Opening) :
    StateM (Logged ω) (Except StoreError (Cursor (Logged ω))) := do
  let answer ← Logged.act (Read.openCursor store opening) fun answer =>
    .opened opening (StoreError.ofAnswer? answer)
  return answer.map Cursor.logged

def Store.logged (store : Store ω) : Store (Logged ω) where
  submit script := store.openLogged (.submit script)
  traverse traversal := store.openLogged (.traverse traversal)

theorem Read.openCursor_logged {store : Store ω} {opening : Opening}
    {world after : ω} {answer : Except StoreError (Cursor ω)}
    (answered : openCursor store opening world = (answer, after))
    (log : List (Contact ω)) :
    openCursor store.logged opening ⟨world, log⟩ =
      (answer.map Cursor.logged,
        ⟨after, log ++ [.opened opening (StoreError.ofAnswer? answer)]⟩) := by
  have isOpening : openCursor store.logged opening =
      store.openLogged opening := by
    cases opening <;> rfl
  rw [isOpening]
  simp only [Store.openLogged, bind, StateT.bind,
    Logged.act_of_eq answered]
  rfl

theorem Sink.write_logged {sink : Sink ω} {candidate : Option Row}
    {world after : ω} {answer : Except SinkError UInt64}
    (offered : sink.write (pure candidate) world = (answer, after))
    (log : List (Contact ω)) :
    sink.logged.write (pure candidate) ⟨world, log⟩ =
      (answer, ⟨after, log ++ [.offered (pure candidate) answer]⟩) :=
  Logged.act_of_eq offered _ log

end GraphTable
