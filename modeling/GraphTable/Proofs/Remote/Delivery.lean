import Mathlib
import GraphTable.Proofs.Remote.ResponseText
import GraphTable.Proofs.Remote.Pull

/-!
# Deliveries of a remote store

A result comes in any number of responses that promise more and one last
response, with messages between them that mean nothing.  However a result is cut
into responses, the records that are pulled from the connection are the same,
and nothing behind the last response is read.
-/

namespace GraphTable

/-- The records that data stand for: none where there are no data, the items of
an array in order, and any other value alone. -/
inductive Bears : Option Json → List Json → Prop
  | absent : Bears none []
  | null : Bears (some .null) []
  | array (items : List Json) : Bears (some (.array items)) items
  | single {value : Json} (notNull : value ≠ .null)
      (notArray : ∀ items, value ≠ .array items) :
      Bears (some value) [value]

namespace Event

/-- The text of a message: a text message, or a binary message that is UTF-8. -/
def text? : Event → Option String
  | .text message => some message
  | .binary message => (Text.decodeUtf8 message).toOption
  | _ => none

/-- An event brings a response with a code, and with a message and data unless
they are left out. -/
def Brings (event : Event) (code : Nat) (message : Option String)
    (data : Option Json) : Prop :=
  ∃ text, event.text? = some text ∧ IsResponseText text code message data

/-- An event behind which more is to come, and the records that it brings. -/
inductive Continues : Event → List Json → Prop
  | control : Continues .control []
  | response {event : Event} {message : Option String} {data : Option Json}
      {records : List Json} (brings : event.Brings 206 message data)
      (bears : Bears data records) :
      Continues event records

/-- The event that completes a result, and the records that it brings. -/
inductive Completes : Event → List Json → Prop
  | content {event : Event} {message : Option String} {data : Option Json}
      {records : List Json} (brings : event.Brings 200 message data)
      (bears : Bears data records) :
      Completes event records
  | noContent {event : Event} {message : Option String} {data : Option Json}
      (brings : event.Brings 204 message data) :
      Completes event []

end Event

/-- Events behind which more is to come, and the records they bring together. -/
inductive Partial : List Event → List Json → Prop
  | nil : Partial [] []
  | cons {event : Event} {events : List Event} {records others : List Json}
      (first : event.Continues records) (rest : Partial events others) :
      Partial (event :: events) (records ++ others)

/-- Events that make up a complete result, and its records. -/
inductive Delivery : List Event → List Json → Prop
  | mk {events : List Event} {last : Event} {records others : List Json}
      (before : Partial events records) (completes : last.Completes others) :
      Delivery (events ++ [last]) (records ++ others)

theorem Bears.recordsOf_eq {data : Option Json} {records : List Json}
    (bears : Bears data records) :
    Response.recordsOf (data.getD .null) = records := by
  cases bears with
  | absent => rfl
  | null => rfl
  | array items => rfl
  | @single value notNull notArray =>
      cases value with
      | null => exact absurd rfl notNull
      | array items => exact absurd rfl (notArray items)
      | _ => rfl

namespace Event

theorem ofEvent_of_text {event : Event} {text : String} (wait : Nat)
    (isText : event.text? = some text) :
    Arrival.ofEvent wait event = Arrival.ofText text := by
  cases event with
  | text message =>
      cases isText
      rfl
  | binary message =>
      simp only [text?] at isText
      cases decoded : Text.decodeUtf8 message with
      | ok other =>
          rw [decoded] at isText
          cases isText
          simp only [Arrival.ofEvent, decoded]
      | error fault =>
          rw [decoded] at isText
          cases isText
  | control => cases isText
  | close => cases isText
  | broken cause => cases isText
  | silence => cases isText

/-- A response with a good code arrives. -/
theorem Brings.ofEvent_of_ok {event : Event} {code : Nat}
    {message : Option String} {data : Option Json} {answer : Response}
    (brings : event.Brings code message data) (wait : Nat)
    (judged : Response.ofMessage ⟨⟨code, message.getD ""⟩, data.getD .null⟩ =
      .ok answer) :
    Arrival.ofEvent wait event = .response answer := by
  obtain ⟨text, isText, isResponse⟩ := brings
  rw [ofEvent_of_text wait isText]
  simp only [Arrival.ofText, Response.decode, isResponse.decode_eq, judged]

/-- A response with any other code is a failure. -/
theorem Brings.ofEvent_of_error {event : Event} {code : Nat}
    {message : Option String} {data : Option Json} {error : StoreError}
    (brings : event.Brings code message data) (wait : Nat)
    (judged : Response.ofMessage ⟨⟨code, message.getD ""⟩, data.getD .null⟩ =
      .error error) :
    Arrival.ofEvent wait event = .failure error true := by
  obtain ⟨text, isText, isResponse⟩ := brings
  rw [ofEvent_of_text wait isText]
  simp only [Arrival.ofText, Response.decode, isResponse.decode_eq, judged]

theorem Continues.ofEvent_eq {event : Event} {records : List Json}
    (continues : event.Continues records) (wait : Nat) :
    (Arrival.ofEvent wait event = .nothing ∧ records = []) ∨
      Arrival.ofEvent wait event = .response ⟨records, false⟩ := by
  cases continues with
  | control => exact .inl ⟨rfl, rfl⟩
  | response brings bears =>
      right
      rw [← bears.recordsOf_eq]
      exact brings.ofEvent_of_ok wait rfl

theorem Completes.ofEvent_eq {event : Event} {records : List Json}
    (completes : event.Completes records) (wait : Nat) :
    Arrival.ofEvent wait event = .response ⟨records, true⟩ := by
  cases completes with
  | content brings bears =>
      rw [← bears.recordsOf_eq]
      exact brings.ofEvent_of_ok wait rfl
  | noContent brings => exact brings.ofEvent_of_ok wait rfl

end Event

namespace Connection

variable {wait : Nat} {event : Event} {rest : List Event}

theorem receive_of_continues {records : List Json}
    (continues : event.Continues records) :
    receive wait (event :: rest) = next wait ⟨rest, records, false⟩ := by
  rcases continues.ofEvent_eq wait with ⟨nothing, rfl⟩ | response
  · rw [receive, nothing]
    rfl
  · rw [receive, response]
    cases records <;> rfl

theorem receive_of_completes {records : List Json}
    (completes : event.Completes records) :
    receive wait (event :: rest) = next wait ⟨rest, records, true⟩ := by
  rw [receive, completes.ofEvent_eq wait]
  cases records <;> rfl

/-- The records at hand, and those that will be brought before the events
`rest`, are all that is still to be pulled before these events. -/
inductive Owes (rest : List Event) : Connection → List Json → Prop
  | mk {events : List Event} {others : List Json} (buffered : List Json)
      (later : Partial events others) :
      Owes rest ⟨events ++ rest, buffered, false⟩ (buffered ++ others)

/-- A record that is owed is pulled. -/
theorem Owes.next_cons {connection : Connection} {record : Json}
    {records : List Json} (owes : Owes rest connection (record :: records))
    (wait : Nat) :
    ∃ after, connection.next wait = (.ok (some record), after) ∧
      Owes rest after records := by
  generalize total : record :: records = owed at owes
  obtain @⟨events, others, buffered, later⟩ := owes
  induction later generalizing buffered with
  | nil =>
      cases buffered with
      | nil => cases total
      | cons first buffered =>
          cases total
          exact ⟨_, rfl, .mk buffered .nil⟩
  | @cons event events brought others first later ih =>
      cases buffered with
      | nil =>
          obtain ⟨after, pulled, owes⟩ := ih brought total
          exact ⟨after, (receive_of_continues first).trans pulled, owes⟩
      | cons head buffered =>
          cases total
          exact ⟨_, rfl, .mk buffered (.cons first later)⟩

/-- Where nothing is owed, the event that comes next is taken. -/
theorem Owes.next_nil {connection : Connection}
    (owes : Owes rest connection []) (wait : Nat) :
    connection.next wait = receive wait rest := by
  generalize total : ([] : List Json) = owed at owes
  obtain @⟨events, others, buffered, later⟩ := owes
  obtain ⟨rfl, nothing⟩ := List.append_eq_nil_iff.mp total.symm
  induction later with
  | nil => rfl
  | @cons event events brought others first later ih =>
      obtain ⟨rfl, rfl⟩ := List.append_eq_nil_iff.mp nothing
      exact (receive_of_continues first).trans (ih rfl rfl)

end Connection

theorem Puller.pulls_add {κ : Type} (puller : Puller κ) (first second : Nat)
    (state : κ) :
    puller.pulls (first + second) state =
      let (answers, middle) := puller.pulls first state
      let (others, after) := puller.pulls second middle
      (answers ++ others, after) := by
  induction first generalizing state with
  | zero =>
      rw [Nat.zero_add]
      rfl
  | succ first ih =>
      rw [Nat.succ_add, pulls]
      simp only [ih]
      rfl

namespace Connection

variable {rest behind : List Event} {connection : Connection}
  {records : List Json}

/-- What is answered when records are pulled. -/
def given (records : List Json) : List (Except StoreError (Option Json)) :=
  records.map fun record => .ok (some record)

theorem Owes.pulls (client : Client) (owes : Owes rest connection records) :
    ∃ after, client.puller.pulls records.length connection =
        (given records, after) ∧
      Owes rest after [] := by
  induction records generalizing connection with
  | nil => exact ⟨connection, rfl, owes⟩
  | cons record records ih =>
      obtain ⟨next, pulled, nextOwes⟩ := owes.next_cons client.wait
      obtain ⟨after, others, afterOwes⟩ := ih nextOwes
      refine ⟨after, ?_, afterOwes⟩
      have first : client.puller.next connection = (.ok (some record), next) :=
        pulled
      rw [List.length_cons, Puller.pulls, first]
      simp only [others]
      rfl

/-- A connection that is done with gives the records at hand and then the end,
and takes no event. -/
theorem pulls_of_finished (client : Client) (records : List Json)
    (count : Nat) :
    client.puller.pulls (records.length + count) ⟨behind, records, true⟩ =
      (given records ++ List.replicate count (.ok none),
        ⟨behind, [], true⟩) := by
  induction records with
  | nil =>
      rw [List.length_nil, Nat.zero_add]
      induction count with
      | zero => rfl
      | succ count ih =>
          have done : client.puller.next ⟨behind, [], true⟩ =
              (.ok none, ⟨behind, [], true⟩) :=
            rfl
          rw [Puller.pulls, done]
          simp only [ih]
          rfl
  | cons record records ih =>
      have first : client.puller.next ⟨behind, record :: records, true⟩ =
          (.ok (some record), ⟨behind, records, true⟩) :=
        rfl
      rw [List.length_cons, Nat.succ_add, Puller.pulls, first]
      simp only [ih]
      rfl

theorem pulls_succ_congr (client : Client) {first second : Connection}
    (same : client.puller.next first = client.puller.next second)
    (count : Nat) :
    client.puller.pulls (count + 1) first =
      client.puller.pulls (count + 1) second := by
  rw [Puller.pulls, Puller.pulls, same]

/-- The event that stands first is taken. -/
theorem receive_cons_suffix (wait : Nat) (event : Event) (rest : List Event) :
    (receive wait (event :: rest)).2.incoming <:+ rest := by
  obtain ⟨taken, pulled⟩ := pulled_receive wait (event :: rest)
  generalize receive wait (event :: rest) = received at pulled
  obtain ⟨answer, after⟩ := received
  cases pulled with
  | passed idle later => exact ⟨_, later.incoming_eq.symm⟩
  | settled settles => exact List.suffix_rfl

theorem pulls_incoming_suffix (client : Client) (count : Nat)
    (connection : Connection) :
    (client.puller.pulls count connection).2.incoming <:+
      connection.incoming := by
  obtain ⟨taken, pulled⟩ := pulledAll_pulls client count connection
  exact ⟨taken, pulled.incoming_eq.symm⟩

/-- Events behind which more is to come give their records; the pulls after
these are pulls from the events that follow. -/
theorem pulls_past_partial (client : Client) {events : List Event}
    (before : Partial events records) (rest : List Event) (count : Nat) :
    client.puller.pulls (records.length + (count + 1))
        (.opened (events ++ rest)) =
      let (answers, after) := client.puller.pulls (count + 1) (.opened rest)
      (given records ++ answers, after) := by
  have owed : Owes rest (.opened (events ++ rest)) ([] ++ records) :=
    .mk [] before
  obtain ⟨middle, pulled, owes⟩ := owed.pulls client
  have same : client.puller.next middle = client.puller.next (.opened rest) :=
    owes.next_nil client.wait
  rw [List.nil_append] at pulled
  rw [Puller.pulls_add]
  simp only [pulled, pulls_succ_congr client same]

/-- The pulls that find the records of a delivery and then its end. -/
theorem pulls_past_delivery (client : Client) {events : List Event}
    (delivery : Delivery events records) (behind : List Event) (count : Nat) :
    client.puller.pulls (records.length + (count + 1))
        (.opened (events ++ behind)) =
      (given records ++ List.replicate (count + 1) (.ok none),
        ⟨behind, [], true⟩) := by
  obtain @⟨events, last, records, others, before, completes⟩ := delivery
  have completed : client.puller.next (.opened (last :: behind)) =
      client.puller.next ⟨behind, others, true⟩ :=
    receive_of_completes completes
  have past := pulls_past_partial client before (last :: behind)
    (others.length + count)
  rw [pulls_succ_congr client completed, Nat.add_assoc,
    pulls_of_finished] at past
  rw [List.length_append, Nat.add_assoc, List.append_assoc,
    List.singleton_append, past]
  simp [given]

/-- However a result is cut into responses and whatever stands between them,
pulling gives its records in order and then the end for ever, and never takes an
event behind the last response. -/
theorem pulls_delivery (client : Client) {events : List Event}
    (delivery : Delivery events records) (behind : List Event) (count : Nat) :
    (client.puller.pulls (records.length + count)
        (.opened (events ++ behind))).1 =
        given records ++ List.replicate count (.ok none) ∧
      behind <:+ (client.puller.pulls count
        (.opened (events ++ behind))).2.incoming := by
  have past := pulls_past_delivery client delivery behind count
  constructor
  · rw [← Nat.add_assoc, Puller.pulls_add] at past
    have answers := congrArg Prod.fst past
    rw [List.replicate_succ', ← List.append_assoc] at answers
    exact List.append_inj_left' answers rfl
  · rw [Nat.add_left_comm, Puller.pulls_add] at past
    have middle := pulls_incoming_suffix client (records.length + 1)
      (client.puller.pulls count (.opened (events ++ behind))).2
    have left : (client.puller.pulls (records.length + 1)
        (client.puller.pulls count (.opened (events ++ behind))).2).2.incoming =
          behind :=
      congrArg (fun pulled => pulled.2.incoming) past
    rwa [left] at middle

/-- A response that promises more, with the array of one number. -/
def firstResponse : Event :=
  .text "\x7b\"status\":\x7b\"code\":206\x7d,\"result\":\x7b\"data\":[1]\x7d\x7d"

/-- A response that is the last one, with a number. -/
def lastText : String :=
  "\x7b\"status\":\x7b\"code\":200\x7d,\"result\":\x7b\"data\":7\x7d\x7d"

/-- The last response as a binary message. -/
def lastResponse : Event :=
  .binary (Text.encodeUtf8 lastText)

set_option maxRecDepth 20000 in
theorem firstResponse_continues : firstResponse.Continues [Json.ofNat 1] := by
  have brings : firstResponse.Brings 206 none
      (some (.array [Json.ofNat 1])) := by
    refine ⟨_, rfl, Draft.response [2, 0, 6]
      (.array false [.number ⟨false, [1], none, none⟩] none), by cbv, ?_⟩
    exact Draft.response_isResponse rfl (by decide) rfl
  exact .response brings (.array [Json.ofNat 1])

set_option maxRecDepth 20000 in
theorem lastResponse_completes : lastResponse.Completes [Json.ofNat 7] := by
  have brings : lastResponse.Brings 200 none (some (Json.ofNat 7)) := by
    refine ⟨lastText, by cbv,
      Draft.response [2, 0, 0] (.number ⟨false, [7], none, none⟩), by cbv, ?_⟩
    exact Draft.response_isResponse rfl (by decide) rfl
  exact .content brings
    (.single (by simp [Json.ofNat]) (by simp [Json.ofNat]))

/-- The records of two responses are pulled, and whatever stands behind the last
one is left alone. -/
theorem pulls_two_responses :
    ((Client.mk "ws://store" 5).puller.pulls 4
        (.opened ([firstResponse, .control] ++ [lastResponse] ++
          [.close, .broken "reset"]))).1 =
        [.ok (some (Json.ofNat 1)), .ok (some (Json.ofNat 7)), .ok none,
          .ok none] ∧
      [.close, .broken "reset"] <:+ ((Client.mk "ws://store" 5).puller.pulls 2
        (.opened ([firstResponse, .control] ++ [lastResponse] ++
          [.close, .broken "reset"]))).2.incoming := by
  have before : Partial [firstResponse, .control] [Json.ofNat 1] :=
    .cons firstResponse_continues (.cons .control .nil)
  exact pulls_delivery ⟨"ws://store", 5⟩ (.mk before lastResponse_completes)
    [.close, .broken "reset"] 2

end Connection

end GraphTable
