import GraphTable.Proofs.Remote.Delivery

/-!
# Failures on a connection

A failure is answered once, behind the records of the responses before it.
Every failure but one ends the connection.  A binary message that cannot be read
as text does not: whoever pulls again goes on behind it, as if the connection
had just been opened.
-/

namespace GraphTable

/-- An event that is a failure, and the error that belongs to it. -/
inductive Event.Fails : Event → StoreError → Prop
  | unreadable {bytes : List UInt8} {fault : Text.Utf8Fault}
      (unread : Text.decodeUtf8 bytes = .error fault) :
      Fails (.binary bytes) (.malformedResponse fault.message)
  | undecodable {event : Event} {text : String} {fault : Fault}
      (isText : event.text? = some text)
      (decoded : Draft.decode ResponseMessage.shape.read text = .error fault) :
      Fails event (.json fault)
  | refused {event : Event} {code : Nat} {message : Option String}
      {data : Option Json} (brings : event.Brings code message data)
      (unknown : code ∉ [200, 204, 206]) :
      Fails event (.remote code (message.getD ""))
  | closed : Fails .close Arrival.endedEarly
  | broken (cause : String) : Fails (.broken cause) (.transport cause)

/-- A failure stands first: a failing event or the end of all events.  The last
events are those behind it. -/
inductive Breaks : List Event → StoreError → List Event → Prop
  | event {event : Event} {error : StoreError} (fails : event.Fails error)
      (behind : List Event) :
      Breaks (event :: behind) error behind
  | ended : Breaks [] Arrival.endedEarly []

/-- A binary message that is not UTF-8 stands first. -/
inductive StartsUnreadable : List Event → Prop
  | mk {bytes : List UInt8} {fault : Text.Utf8Fault} {behind : List Event}
      (unread : Text.decodeUtf8 bytes = .error fault) :
      StartsUnreadable (.binary bytes :: behind)

theorem not_startsUnreadable_of_text {event : Event} {text : String}
    {behind : List Event} (isText : event.text? = some text) :
    ¬StartsUnreadable (event :: behind) := by
  intro starts
  cases starts with
  | mk unread => simp [Event.text?, unread, Except.toOption] at isText

theorem Response.ofMessage_refused {message : ResponseMessage}
    (unknown : message.status.code ∉ [200, 204, 206]) :
    ofMessage message =
      .error (.remote message.status.code message.status.message) := by
  unfold ofMessage
  split
  · next code => simp [code] at unknown
  · next code => simp [code] at unknown
  · next code => simp [code] at unknown
  · rfl

namespace Connection

variable {error : StoreError} {events rest behind : List Event}
  {records : List Json}

/-- A failure is answered by its error.  It finishes the connection unless it is
a binary message that is not UTF-8. -/
theorem receive_of_breaks (breaks : Breaks rest error behind) (wait : Nat) :
    (¬StartsUnreadable rest ∧
      receive wait rest = (.error error, ⟨behind, [], true⟩)) ∨
    (StartsUnreadable rest ∧
      receive wait rest = (.error error, .opened behind)) := by
  cases breaks with
  | ended => exact .inl ⟨by rintro ⟨⟩, rfl⟩
  | @event event _ fails =>
      cases fails with
      | unreadable unread =>
          refine .inr ⟨.mk unread, ?_⟩
          simp only [receive, Arrival.ofEvent, unread]
          rfl
      | undecodable isText decoded =>
          refine .inl ⟨not_startsUnreadable_of_text isText, ?_⟩
          have arrival := Event.ofEvent_of_text wait isText
          simp only [Arrival.ofText, Response.decode, decoded] at arrival
          rw [receive, arrival]
      | @refused _ code message data brings unknown =>
          have arrival := brings.ofEvent_of_error wait
            (Response.ofMessage_refused unknown)
          obtain ⟨text, isText, -⟩ := brings
          refine .inl ⟨not_startsUnreadable_of_text isText, ?_⟩
          rw [receive, arrival]
      | closed => exact .inl ⟨by rintro ⟨⟩, rfl⟩
      | broken cause => exact .inl ⟨by rintro ⟨⟩, rfl⟩

/-- Events are pulled as some records, then one error, then the end for ever,
and the events behind the error are never taken. -/
def Ends (client : Client) (events : List Event) (records : List Json)
    (error : StoreError) (behind : List Event) : Prop :=
  ∀ count,
    let (answers, after) :=
      client.puller.pulls (records.length + (count + 1)) (.opened events)
    answers = given records ++ .error error :: List.replicate count (.ok none) ∧
      after.incoming = behind

/-- Behind the records that come before a failure and behind its error, the
pulls go on from the connection that the failure leaves. -/
theorem pulls_past_error (client : Client) {after : Connection}
    (before : Partial events records)
    (failed : receive client.wait rest = (.error error, after)) (count : Nat) :
    client.puller.pulls (records.length + (count + 1))
        (.opened (events ++ rest)) =
      let (answers, last) := client.puller.pulls count after
      (given records ++ .error error :: answers, last) := by
  have first : client.puller.next (.opened rest) = (.error error, after) :=
    failed
  rw [pulls_past_partial client before, Puller.pulls, first]

theorem ends_of_finished (client : Client) (before : Partial events records)
    (failed : receive client.wait rest = (.error error, ⟨behind, [], true⟩)) :
    Ends client (events ++ rest) records error behind := by
  intro count
  have finished : client.puller.pulls (0 + count) ⟨behind, [], true⟩ =
      (List.replicate count (.ok none), ⟨behind, [], true⟩) :=
    pulls_of_finished client [] count
  rw [Nat.zero_add] at finished
  rw [pulls_past_error client before failed, finished]
  exact ⟨rfl, rfl⟩

/-- A connection that goes on either fails at once or takes another event. -/
theorem not_ends_of_opened (client : Client) (before : Partial events records)
    (failed : receive client.wait rest = (.error error, .opened behind)) :
    ¬Ends client (events ++ rest) records error behind := by
  intro ends
  have once := ends 1
  rw [pulls_past_error client before failed] at once
  obtain ⟨answers, left⟩ := once
  cases behind with
  | nil =>
      have answered := List.append_cancel_left answers
      cases answered
  | cons next behind =>
      have taken := receive_cons_suffix client.wait next behind
      have left : (receive client.wait (next :: behind)).2.incoming =
          next :: behind :=
        left
      rw [left] at taken
      have longer := taken.length_le
      rw [List.length_cons] at longer
      omega

/-- A failure is answered by its records and its error; then the connection ends
exactly if the failure is not an unreadable message.  Behind such a message the
pulls are those from a connection just opened. -/
theorem pulls_past_failure (client : Client)
    (before : Partial events records) (breaks : Breaks rest error behind) :
    (Ends client (events ++ rest) records error behind ↔
      ¬StartsUnreadable rest) ∧
    (StartsUnreadable rest → ∀ count,
      client.puller.pulls (records.length + (count + 1))
          (.opened (events ++ rest)) =
        let (answers, last) := client.puller.pulls count (.opened behind)
        (given records ++ .error error :: answers, last)) := by
  rcases receive_of_breaks breaks client.wait with
    ⟨readable, failed⟩ | ⟨unreadable, failed⟩
  · have ends := ends_of_finished client before failed
    exact ⟨iff_of_true ends readable,
      fun unreadable => absurd unreadable readable⟩
  · have goesOn := not_ends_of_opened client before failed
    exact ⟨iff_of_false goesOn (not_not_intro unreadable),
      fun _ => pulls_past_error client before failed⟩

/-- Behind a closed connection not even a last response is read. -/
theorem ends_firstResponse_close :
    Ends ⟨"ws://store", 5⟩ ([firstResponse, .control] ++ [.close, lastResponse])
      [Json.ofNat 1] Arrival.endedEarly [lastResponse] := by
  have before : Partial [firstResponse, .control] [Json.ofNat 1] :=
    .cons firstResponse_continues (.cons .control .nil)
  have breaks : Breaks [.close, lastResponse] Arrival.endedEarly
      [lastResponse] :=
    .event .closed [lastResponse]
  have readable : ∀ behind, ¬StartsUnreadable (.close :: behind) := by
    rintro behind ⟨⟩
  have exactly := (pulls_past_failure ⟨"ws://store", 5⟩ before breaks).1
  rw [exactly]
  exact readable [lastResponse]

/-- A last response behind a message that is not UTF-8 is still read. -/
theorem unreadable_not_ends :
    Breaks [.binary [0xFF], lastResponse]
        (.malformedResponse "invalid utf-8 sequence of 1 bytes from index 0")
        [lastResponse] ∧
      ((Client.mk "ws://store" 5).puller.pulls 3
        (.opened [.binary [0xFF], lastResponse])).1 =
        [.error (.malformedResponse
            "invalid utf-8 sequence of 1 bytes from index 0"),
          .ok (some (Json.ofNat 7)), .ok none] ∧
      ¬Ends ⟨"ws://store", 5⟩ [.binary [0xFF], lastResponse] []
        (.malformedResponse "invalid utf-8 sequence of 1 bytes from index 0")
        [lastResponse] := by
  have message : Text.Utf8Fault.message ⟨0, some 1⟩ =
      "invalid utf-8 sequence of 1 bytes from index 0" := by
    cbv
  have unread : Text.decodeUtf8 [0xFF] = .error ⟨0, some 1⟩ := rfl
  have breaks : Breaks [.binary [0xFF], lastResponse]
      (.malformedResponse "invalid utf-8 sequence of 1 bytes from index 0")
      [lastResponse] :=
    message ▸ .event (.unreadable unread) [lastResponse]
  have failed : receive 5 [.binary [0xFF], lastResponse] =
      (.error (.malformedResponse
        "invalid utf-8 sequence of 1 bytes from index 0"),
        .opened [lastResponse]) := by
    simp only [receive, Arrival.ofEvent, unread, message]
    rfl
  have resumed : (Client.mk "ws://store" 5).puller.pulls 2
      (.opened [lastResponse]) =
        ([.ok (some (Json.ofNat 7)), .ok none], ⟨[], [], true⟩) :=
    pulls_past_delivery ⟨"ws://store", 5⟩ (.mk .nil lastResponse_completes) [] 0
  have pulled := pulls_past_error ⟨"ws://store", 5⟩ .nil failed 2
  rw [resumed] at pulled
  exact ⟨breaks, congrArg Prod.fst pulled,
    not_ends_of_opened ⟨"ws://store", 5⟩ .nil failed⟩

end Connection

end GraphTable
