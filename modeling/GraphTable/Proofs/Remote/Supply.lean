import GraphTable.Proofs.Remote.Delivery

/-!
# Connections as supplies of records

A connection on which a result is delivered answers every pull as the records
themselves would, whether they are at hand, still to come, or all gone.
-/

namespace GraphTable

namespace Connection

variable {connection : Connection} {records : List Json} {rest : List Event}

/-- A connection gives these records and then the end: the last response is
still to come, or it was taken and the records are at hand. -/
inductive Supplies : Connection → List Json → Prop
  | coming {connection : Connection} {records others : List Json} {last : Event}
      {behind : List Event} (owes : Owes (last :: behind) connection records)
      (completes : last.Completes others) :
      Supplies connection (records ++ others)
  | complete (behind : List Event) (records : List Json) :
      Supplies ⟨behind, records, true⟩ records

theorem supplies_of_delivery {events : List Event}
    (delivery : Delivery events records) (behind : List Event) :
    Supplies (.opened (events ++ behind)) records := by
  obtain @⟨events, last, records, others, before, completes⟩ := delivery
  have owes : Owes (last :: behind) (.opened (events ++ last :: behind))
      ([] ++ records) :=
    .mk [] before
  rw [List.append_assoc, List.singleton_append]
  exact .coming owes completes

theorem next_of_complete (wait : Nat) (behind : List Event)
    (records : List Json) :
    next wait ⟨behind, records, true⟩ =
      ((Puller.nextRecord records).1,
        ⟨behind, (Puller.nextRecord records).2, true⟩) := by
  cases records <;> rfl

/-- A supply answers a pull as its records do, and goes on like them. -/
theorem Supplies.next (supplies : Supplies connection records) (wait : Nat) :
    (connection.next wait).1 = (Puller.nextRecord records).1 ∧
      Supplies (connection.next wait).2 (Puller.nextRecord records).2 := by
  cases supplies with
  | complete behind records =>
      rw [next_of_complete]
      exact ⟨rfl, .complete behind _⟩
  | @coming _ owed others last behind owes completes =>
      cases owed with
      | nil =>
          rw [owes.next_nil, receive_of_completes completes, next_of_complete]
          exact ⟨rfl, .complete behind _⟩
      | cons record owed =>
          obtain ⟨after, pulled, afterOwes⟩ := owes.next_cons wait
          rw [pulled]
          exact ⟨rfl, .coming afterOwes completes⟩

def arriving (events : List Event) : Nat :=
  (events.map fun event => (Arrival.ofEvent 0 event).recordCount).sum

theorem foldl_recordCount (count : Nat) (events : List Event) :
    events.foldl
        (fun count event => count + (Arrival.ofEvent 0 event).recordCount)
        count =
      count + arriving events := by
  induction events generalizing count with
  | nil => rfl
  | cons event events ih =>
      rw [List.foldl_cons, ih, arriving, arriving, List.map_cons, List.sum_cons,
        Nat.add_assoc]

theorem bound_eq (connection : Connection) :
    connection.bound =
      connection.buffered.length + arriving connection.incoming := by
  rw [bound, foldl_recordCount, Nat.zero_add]

theorem arriving_cons (event : Event) (events : List Event) :
    arriving (event :: events) =
      (Arrival.ofEvent 0 event).recordCount + arriving events :=
  rfl

theorem arriving_append (first second : List Event) :
    arriving (first ++ second) = arriving first + arriving second := by
  simp [arriving]

theorem arriving_of_partial {events : List Event}
    (before : Partial events records) : arriving events = records.length := by
  induction before with
  | nil => rfl
  | @cons event events records others first rest ih =>
      rw [arriving_cons, ih, List.length_append]
      rcases first.ofEvent_eq 0 with ⟨nothing, rfl⟩ | response
      · rw [nothing]
        rfl
      · rw [response]
        rfl

/-- A supply keeps the promise of its bound. -/
theorem Supplies.length_le_bound (supplies : Supplies connection records) :
    records.length ≤ connection.bound := by
  rw [bound_eq]
  cases supplies with
  | complete behind records => exact Nat.le_add_right _ _
  | @coming _ owed others last behind owes completes =>
      obtain @⟨events, later, buffered, before⟩ := owes
      have arrives : (Arrival.ofEvent 0 last).recordCount = others.length := by
        rw [completes.ofEvent_eq 0]
        rfl
      rw [arriving_append, arriving_of_partial before, arriving_cons, arrives,
        List.length_append, List.length_append]
      dsimp only
      omega

end Connection

end GraphTable
