import GraphTable.Remote.Client

/-!
# What a pull does

A pull hands out a record that is at hand, or says that the connection is done
with, or takes events: it passes over those that bring no record and leave more
to come, and ends with the first one that brings a record, completes the result
or is a failure.  Several pulls go one after the other.
-/

namespace GraphTable

namespace Arrival

def response? : Arrival → Option Response
  | .response answer => some answer
  | _ => none

/-- Whether nothing is to be taken from the connection any more. -/
def finishes : Arrival → Bool
  | .nothing => false
  | .response answer => answer.isLast
  | .failure _ finishes => finishes

/-- An arrival of which whoever waits for a record is told nothing. -/
inductive Idle : Arrival → Prop
  | nothing : Idle .nothing
  | empty : Idle (.response ⟨[], false⟩)

/-- An arrival that whoever waits for a record is told of, with the answer, the
records that are then at hand, and whether the connection is then done with. -/
inductive Settles : Arrival → Except StoreError (Option Json) → List Json →
    Bool → Prop
  | brought (record : Json) (records : List Json) (isLast : Bool) :
      Settles (.response ⟨record :: records, isLast⟩) (.ok (some record))
        records isLast
  | completed : Settles (.response ⟨[], true⟩) (.ok none) [] true
  | failed (error : StoreError) (finishes : Bool) :
      Settles (.failure error finishes) (.error error) [] finishes

theorem idle_or_settles (arrival : Arrival) :
    arrival.Idle ∨ ∃ answer buffered finished,
      arrival.Settles answer buffered finished := by
  cases arrival with
  | nothing => exact .inl .nothing
  | failure error finishes => exact .inr ⟨_, _, _, .failed error finishes⟩
  | response answer =>
      obtain ⟨records, isLast⟩ := answer
      cases records with
      | cons record records =>
          exact .inr ⟨_, _, _, .brought record records isLast⟩
      | nil =>
          cases isLast with
          | false => exact .inl .empty
          | true => exact .inr ⟨_, _, _, .completed⟩

end Arrival

namespace Event

def response? (event : Event) : Option Response :=
  (Arrival.ofEvent 0 event).response?

def records (event : Event) : List Json :=
  (event.response?.map Response.records).getD []

/-- Whether an event is the last one that is taken. -/
def finishes (event : Event) : Bool :=
  (Arrival.ofEvent 0 event).finishes

variable {event : Event} {wait : Nat}

/-- How long the client waits is of no importance to a response. -/
theorem response?_eq (event : Event) (wait : Nat) :
    event.response? = (Arrival.ofEvent wait event).response? := by
  cases event <;> rfl

theorem finishes_eq (event : Event) (wait : Nat) :
    event.finishes = (Arrival.ofEvent wait event).finishes := by
  cases event <;> rfl

theorem records_of_idle (idle : (Arrival.ofEvent wait event).Idle) :
    event.records = [] := by
  rw [records, response?_eq event wait]
  generalize Arrival.ofEvent wait event = arrival at idle
  cases idle <;> rfl

theorem finishes_of_idle (idle : (Arrival.ofEvent wait event).Idle) :
    event.finishes = false := by
  rw [finishes_eq event wait]
  generalize Arrival.ofEvent wait event = arrival at idle
  cases idle <;> rfl

/-- A settling event brings the record that is answered and those that are then
at hand. -/
theorem records_of_settles {answer : Except StoreError (Option Json)}
    {buffered : List Json} {finished : Bool}
    (settles : (Arrival.ofEvent wait event).Settles answer buffered finished) :
    event.records = answer.toOption.join.toList ++ buffered := by
  rw [records, response?_eq event wait]
  generalize Arrival.ofEvent wait event = arrival at settles
  cases settles <;> rfl

end Event

namespace Connection

/-- A pull from a connection, with the events that it takes, its answer and the
connection that it leaves. -/
inductive Pulled (wait : Nat) : Connection → List Event →
    Except StoreError (Option Json) → Connection → Prop
  | atHand {incoming : List Event} {record : Json} {records : List Json}
      {finished : Bool} :
      Pulled wait ⟨incoming, record :: records, finished⟩ []
        (.ok (some record)) ⟨incoming, records, finished⟩
  | done {incoming : List Event} :
      Pulled wait ⟨incoming, [], true⟩ [] (.ok none) ⟨incoming, [], true⟩
  | ended :
      Pulled wait ⟨[], [], false⟩ [] (.error Arrival.endedEarly) ⟨[], [], true⟩
  | passed {event : Event} {rest taken : List Event}
      {answer : Except StoreError (Option Json)} {after : Connection}
      (idle : (Arrival.ofEvent wait event).Idle)
      (later : Pulled wait ⟨rest, [], false⟩ taken answer after) :
      Pulled wait ⟨event :: rest, [], false⟩ (event :: taken) answer after
  | settled {event : Event} {rest : List Event}
      {answer : Except StoreError (Option Json)} {buffered : List Json}
      {finished : Bool}
      (settles : (Arrival.ofEvent wait event).Settles answer buffered
        finished) :
      Pulled wait ⟨event :: rest, [], false⟩ [event] answer
        ⟨rest, buffered, finished⟩

theorem receive_of_idle {wait : Nat} {event : Event} (rest : List Event)
    (idle : (Arrival.ofEvent wait event).Idle) :
    receive wait (event :: rest) = receive wait rest := by
  rw [receive]
  generalize Arrival.ofEvent wait event = arrival at idle
  cases idle <;> rfl

theorem receive_of_settles {wait : Nat} {event : Event} (rest : List Event)
    {answer : Except StoreError (Option Json)} {buffered : List Json}
    {finished : Bool}
    (settles : (Arrival.ofEvent wait event).Settles answer buffered finished) :
    receive wait (event :: rest) = (answer, ⟨rest, buffered, finished⟩) := by
  rw [receive]
  generalize Arrival.ofEvent wait event = arrival at settles
  cases settles <;> rfl

theorem pulled_receive (wait : Nat) (events : List Event) :
    ∃ taken, Pulled wait ⟨events, [], false⟩ taken (receive wait events).1
      (receive wait events).2 := by
  induction events with
  | nil => exact ⟨[], .ended⟩
  | cons event rest ih =>
      rcases (Arrival.ofEvent wait event).idle_or_settles with
        idle | ⟨answer, buffered, finished, settles⟩
      · obtain ⟨taken, later⟩ := ih
        rw [receive_of_idle rest idle]
        exact ⟨event :: taken, .passed idle later⟩
      · rw [receive_of_settles rest settles]
        exact ⟨[event], .settled settles⟩

/-- Every pull goes in one of these ways. -/
theorem pulled_next (wait : Nat) (connection : Connection) :
    ∃ taken, Pulled wait connection taken (connection.next wait).1
      (connection.next wait).2 := by
  obtain ⟨incoming, buffered, finished⟩ := connection
  cases buffered with
  | cons record records => exact ⟨[], .atHand⟩
  | nil =>
      cases finished with
      | true => exact ⟨[], .done⟩
      | false => exact pulled_receive wait incoming

theorem Pulled.incoming_eq {wait : Nat} {connection after : Connection}
    {taken : List Event} {answer : Except StoreError (Option Json)}
    (pulled : Pulled wait connection taken answer after) :
    connection.incoming = taken ++ after.incoming := by
  induction pulled with
  | passed idle later ih => exact congrArg _ ih
  | _ => rfl

end Connection

theorem Puller.pulls_succ {κ : Type} {puller : Puller κ} {state after : κ}
    {answer : Except StoreError (Option Json)}
    (pulled : puller.next state = (answer, after)) (count : Nat) :
    puller.pulls (count + 1) state =
      (answer :: (puller.pulls count after).1,
        (puller.pulls count after).2) := by
  rw [pulls, pulled]

namespace Connection

/-- Several pulls from a connection, with the events that they take, their
answers and the connection that they leave. -/
inductive PulledAll (wait : Nat) : Connection → List Event →
    List (Except StoreError (Option Json)) → Connection → Prop
  | nil {connection : Connection} : PulledAll wait connection [] [] connection
  | cons {connection middle after : Connection} {taken others : List Event}
      {answer : Except StoreError (Option Json)}
      {answers : List (Except StoreError (Option Json))}
      (first : Pulled wait connection taken answer middle)
      (rest : PulledAll wait middle others answers after) :
      PulledAll wait connection (taken ++ others) (answer :: answers) after

theorem pulledAll_pulls (client : Client) (count : Nat)
    (connection : Connection) :
    ∃ taken, PulledAll client.wait connection taken
      (client.puller.pulls count connection).1
      (client.puller.pulls count connection).2 := by
  induction count generalizing connection with
  | zero => exact ⟨[], .nil⟩
  | succ count ih =>
      obtain ⟨taken, first⟩ := pulled_next client.wait connection
      obtain ⟨others, rest⟩ := ih (connection.next client.wait).2
      exact ⟨taken ++ others, .cons first rest⟩

/-- Pulling only takes events off the front. -/
theorem PulledAll.incoming_eq {wait : Nat} {connection after : Connection}
    {taken : List Event} {answers : List (Except StoreError (Option Json))}
    (pulled : PulledAll wait connection taken answers after) :
    connection.incoming = taken ++ after.incoming := by
  induction pulled with
  | nil => rfl
  | cons first rest ih => rw [first.incoming_eq, ih, List.append_assoc]

end Connection

end GraphTable
