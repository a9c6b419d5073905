import GraphTable.Proofs.Remote.Pull

/-!
# Records at hand

A connection keeps no more than what is left of one message.  An event is taken
only when no record is at hand and the connection is not done with, and so, when
a record is answered, exactly the events up to the one that brought it are gone.
-/

namespace GraphTable

def arrived (events : List Event) : List Json :=
  events.flatMap Event.records

def Event.isMessage : Event → Bool
  | .text _ => true
  | .binary _ => true
  | _ => false

/-- The records of the last message among events that has content. -/
def latest (events : List Event) : List Json :=
  ((events.filter Event.isMessage).getLast?.map Event.records).getD []

/-- An event, standing behind others, brings the record with a number, where the
records of all events are counted from zero. -/
def Event.Carries (event : Event) (before : List Event) (number : Nat)
    (record : Json) : Prop :=
  ∃ place, number = (arrived before).length + place ∧
    event.records[place]? = some record

theorem arrived_concat (events : List Event) (event : Event) :
    arrived (events ++ [event]) = arrived events ++ event.records := by
  simp [arrived]

theorem Event.records_of_not_isMessage {event : Event}
    (other : event.isMessage = false) : event.records = [] := by
  cases event with
  | text message => cases other
  | binary message => cases other
  | _ => rfl

theorem records_suffix_latest (before : List Event) (event : Event) :
    event.records <:+ latest (before ++ [event]) := by
  cases message : event.isMessage with
  | false =>
      rw [Event.records_of_not_isMessage message]
      exact List.nil_suffix
  | true => simp [latest, message]

namespace Connection

def received (answers : List (Except StoreError (Option Json))) : List Json :=
  answers.flatMap fun answer => answer.toOption.join.toList

/-- A connection once events that stood first were taken: their records are at
hand, behind those that were, and it is done with if one of them is the last. -/
def reading (connection : Connection) (events : List Event) : Connection :=
  ⟨connection.incoming.drop events.length,
    connection.buffered ++ arrived events,
    connection.finished || events.any Event.finishes⟩

/-- The events that were read account for the answers that were given and for
the records at hand, and these are all from the event that was read last. -/
inductive Accounts : List Event → List (Except StoreError (Option Json)) →
    List Json → Prop
  | empty {read : List Event}
      {answers : List (Except StoreError (Option Json))}
      (delivered : received answers = arrived read) :
      Accounts read answers []
  | holding {before : List Event} {event : Event}
      {answers : List (Except StoreError (Option Json))}
      {given buffered : List Json} (brings : event.records = given ++ buffered)
      (delivered : received answers = arrived before ++ given) :
      Accounts (before ++ [event]) answers buffered

variable {wait : Nat} {connection after : Connection} {read taken : List Event}
  {answer : Except StoreError (Option Json)}
  {answers : List (Except StoreError (Option Json))} {buffered : List Json}

theorem received_concat (answers : List (Except StoreError (Option Json)))
    (answer : Except StoreError (Option Json)) :
    received (answers ++ [answer]) =
      received answers ++ answer.toOption.join.toList := by
  simp [received]

/-- Where no record is at hand, all that arrived were answered. -/
theorem Accounts.received_eq (accounts : Accounts read answers []) :
    received answers = arrived read := by
  generalize isEmpty : ([] : List Json) = buffered at accounts
  cases accounts with
  | empty delivered => exact delivered
  | holding brings delivered =>
      rw [← isEmpty, List.append_nil] at brings
      rw [arrived_concat, brings, delivered]

theorem Accounts.buffered_suffix (accounts : Accounts read answers buffered) :
    buffered <:+ latest read := by
  cases accounts with
  | empty => exact List.nil_suffix
  | @holding before event _ given _ brings =>
      have part : buffered <:+ event.records := ⟨given, brings.symm⟩
      exact part.trans (records_suffix_latest before event)

/-- An event that is passed over leaves nothing to account for. -/
theorem Accounts.pass {event : Event}
    (accounts : Accounts read answers [])
    (idle : (Arrival.ofEvent wait event).Idle) :
    Accounts (read ++ [event]) answers [] := by
  refine .empty ?_
  rw [arrived_concat, Event.records_of_idle idle, List.append_nil]
  exact accounts.received_eq

/-- A pull keeps account of what it takes and of what it answers. -/
theorem Pulled.accounts (pulled : Pulled wait connection taken answer after)
    (accounts : Accounts read answers connection.buffered) :
    Accounts (read ++ taken) (answers ++ [answer]) after.buffered := by
  induction pulled generalizing read with
  | @atHand _ record records =>
      generalize held : record :: records = buffered at accounts
      cases accounts with
      | empty => cases held
      | @holding before event _ given _ brings delivered =>
          rw [← held, List.append_cons] at brings
          rw [List.append_nil]
          refine .holding brings ?_
          rw [received_concat, delivered, List.append_assoc]
          rfl
  | done =>
      refine .empty ?_
      rw [received_concat, List.append_nil]
      exact (List.append_nil _).trans accounts.received_eq
  | ended =>
      refine .empty ?_
      rw [received_concat, List.append_nil]
      exact (List.append_nil _).trans accounts.received_eq
  | passed idle later ih =>
      rw [List.append_cons]
      exact ih (accounts.pass idle)
  | settled settles =>
      refine .holding (Event.records_of_settles settles) ?_
      rw [received_concat, accounts.received_eq]

/-- When a record is answered, the event that was taken last brought it. -/
theorem Pulled.carried {record : Json}
    (pulled : Pulled wait connection taken (.ok (some record)) after)
    (accounts : Accounts read answers connection.buffered) :
    ∃ before event, read ++ taken = before ++ [event] ∧
      event.Carries before (received answers).length record := by
  generalize isRecord : Except.ok (some record) = answer at pulled
  induction pulled generalizing read with
  | @atHand _ first records =>
      obtain rfl : record = first := by simpa using isRecord
      generalize held : record :: records = buffered at accounts
      cases accounts with
      | empty => cases held
      | @holding before event _ given _ brings delivered =>
          refine ⟨before, event, List.append_nil _, given.length, ?_, ?_⟩
          · rw [delivered, List.length_append]
          · rw [brings, ← held]
            simp
  | done => simp at isRecord
  | ended => simp at isRecord
  | passed idle later ih =>
      rw [List.append_cons]
      exact ih (accounts.pass idle) isRecord
  | @settled event _ _ _ _ settles =>
      refine ⟨read, event, rfl, 0, ?_, ?_⟩
      · rw [accounts.received_eq, Nat.add_zero]
      · rw [Event.records_of_settles settles, ← isRecord]
        rfl

theorem reading_of_idle {event : Event} (rest passed : List Event)
    (idle : (Arrival.ofEvent wait event).Idle) :
    reading ⟨event :: rest, [], false⟩ (event :: passed) =
      reading ⟨rest, [], false⟩ passed := by
  simp [reading, arrived, Event.records_of_idle idle,
    Event.finishes_of_idle idle]

/-- Whenever a pull takes an event, no record is at hand and the connection is
not done with; the pull goes on from there. -/
theorem Pulled.reading_passed
    (pulled : Pulled wait connection taken answer after)
    {passed : List Event} {event : Event} {rest : List Event}
    (split : taken = passed ++ event :: rest) :
    (connection.reading passed).buffered = [] ∧
      (connection.reading passed).finished = false ∧
      (connection.reading passed).next wait = connection.next wait := by
  induction pulled generalizing passed with
  | atHand => simp at split
  | done => simp at split
  | ended => simp at split
  | @passed _ remaining _ _ _ idle later ih =>
      cases passed with
      | nil => exact ⟨rfl, rfl, rfl⟩
      | cons head passed =>
          obtain ⟨rfl, others⟩ := List.cons_eq_cons.mp split
          obtain ⟨empty, isOpen, goesOn⟩ := ih others
          rw [reading_of_idle remaining passed idle]
          exact ⟨empty, isOpen,
            goesOn.trans (receive_of_idle remaining idle).symm⟩
  | settled =>
      cases passed with
      | nil => exact ⟨rfl, rfl, rfl⟩
      | cons head passed => simp at split

/-- Any number of pulls keeps account of what was read. -/
theorem PulledAll.accounts {others : List (Except StoreError (Option Json))}
    (pulled : PulledAll wait connection taken others after)
    (accounts : Accounts read answers connection.buffered) :
    Accounts (read ++ taken) (answers ++ others) after.buffered := by
  induction pulled generalizing read answers with
  | nil => rwa [List.append_nil, List.append_nil]
  | cons first rest ih =>
      rw [List.append_cons, ← List.append_assoc]
      exact ih (first.accounts accounts)

/-- Whatever the events are and however often was pulled: the records at hand
are the last ones of the message that was read last; when the next pull takes an
event, it has come to where no record is at hand and the connection is not done
with; and when it answers a record, the events gone are those up to the one that
brought it. -/
theorem pulls_lazily (client : Client) (events : List Event) (count : Nat) :
    let (answers, reached) := client.puller.pulls count (.opened events)
    let (answer, after) := client.next reached
    ∃ read taken,
      events = read ++ reached.incoming ∧
      reached.buffered <:+ latest read ∧
      reached.incoming = taken ++ after.incoming ∧
      (∀ passed event rest, taken = passed ++ event :: rest →
        (reached.reading passed).buffered = [] ∧
          (reached.reading passed).finished = false ∧
          client.next (reached.reading passed) = (answer, after)) ∧
      ∀ record, answer = .ok (some record) →
        ∃ before event, events = before ++ event :: after.incoming ∧
          event.Carries before (received answers).length record := by
  have nothing : Accounts [] [] (opened events).buffered := .empty rfl
  obtain ⟨read, all⟩ := pulledAll_pulls client count (.opened events)
  generalize client.puller.pulls count (.opened events) = pulls at all
  obtain ⟨answers, reached⟩ := pulls
  have accounts : Accounts read answers reached.buffered :=
    all.accounts nothing
  have incoming : events = read ++ reached.incoming := all.incoming_eq
  obtain ⟨taken, pulled⟩ := pulled_next client.wait reached
  refine ⟨read, taken, incoming, accounts.buffered_suffix, pulled.incoming_eq,
    fun passed event rest => pulled.reading_passed, ?_⟩
  intro record isRecord
  have answered : (reached.next client.wait).1 = .ok (some record) := isRecord
  rw [answered] at pulled
  obtain ⟨before, event, split, carries⟩ := pulled.carried accounts
  refine ⟨before, event, ?_, carries⟩
  calc events
    _ = read ++ reached.incoming := incoming
    _ = (read ++ taken) ++ (reached.next client.wait).2.incoming := by
        rw [List.append_assoc, ← pulled.incoming_eq]
    _ = before ++ event :: (reached.next client.wait).2.incoming := by
        rw [split, ← List.append_cons]

end Connection

end GraphTable
