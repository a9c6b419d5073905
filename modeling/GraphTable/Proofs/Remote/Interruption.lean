import GraphTable.Proofs.Remote.Delivery

/-!
# Waiting in vain

A client that waits in vain is told so once, and the connection stays as it is.
Whoever goes on pulling is answered as if nothing had come in between: silences
and messages that mean nothing, wherever they stand, neither lose nor repeat a
record.
-/

namespace GraphTable

/-- Whether nothing arrives as long as the client waits. -/
def Event.isSilence : Event → Bool
  | .silence => true
  | _ => false

/-- Whether an answer says that the client waited in vain. -/
def timedOut : Except StoreError (Option Json) → Bool
  | .error (.timeout _) => true
  | _ => false

/-- Events without silences, and the same events with silences and messages that
mean nothing put in anywhere. -/
inductive Interrupted : List Event → List Event → Prop
  | nil : Interrupted [] []
  | kept {event : Event} {events others : List Event}
      (notSilence : event ≠ .silence) (rest : Interrupted events others) :
      Interrupted (event :: events) (event :: others)
  | control {events others : List Event} (rest : Interrupted events others) :
      Interrupted events (.control :: others)
  | silence {events others : List Event} (rest : Interrupted events others) :
      Interrupted events (.silence :: others)

namespace Puller

variable {κ : Type}

theorem length_pulls (puller : Puller κ) (count : Nat) (state : κ) :
    (puller.pulls count state).1.length = count := by
  induction count generalizing state with
  | zero => rfl
  | succ count ih =>
      have isNext : puller.next state =
          ((puller.next state).1, (puller.next state).2) := rfl
      rw [pulls_succ isNext, List.length_cons, ih]

/-- Whoever pulls more often gets the same answers first. -/
theorem take_pulls (puller : Puller κ) {first count : Nat}
    (fewer : first ≤ count) (state : κ) :
    (puller.pulls count state).1.take first = (puller.pulls first state).1 := by
  obtain ⟨more, rfl⟩ := Nat.exists_eq_add_of_le fewer
  rw [pulls_add]
  exact List.take_left' (length_pulls puller first state)

end Puller

section Silences

variable {wait : Nat} {event : Event}
  {answer : Except StoreError (Option Json)} {buffered : List Json}
  {finished : Bool}

theorem Event.isSilence_of_ne (notSilence : event ≠ .silence) :
    event.isSilence = false := by
  cases event with
  | silence => exact absurd rfl notSilence
  | _ => rfl

theorem Event.isSilence_of_idle (idle : (Arrival.ofEvent wait event).Idle) :
    event.isSilence = false := by
  apply isSilence_of_ne
  rintro rfl
  cases idle

/-- No response is an error of waiting. -/
theorem Response.timedOut_decode {text : String} {error : StoreError}
    (decoded : decode text = .error error) :
    timedOut (.error error) = false := by
  unfold decode at decoded
  split at decoded
  · unfold ofMessage at decoded
    split at decoded
    · cases decoded
    · cases decoded
    · cases decoded
    · cases decoded
      rfl
  · cases decoded
    rfl

theorem Arrival.timedOut_ofText {text : String}
    (settles : (ofText text).Settles answer buffered finished) :
    timedOut answer = false := by
  unfold ofText at settles
  split at settles
  · cases settles <;> rfl
  · next decoded =>
      cases settles
      exact Response.timedOut_decode decoded

/-- Silences and nothing else make a client wait in vain. -/
theorem Event.timedOut_of_settles
    (settles : (Arrival.ofEvent wait event).Settles answer buffered finished) :
    timedOut answer = event.isSilence := by
  cases event with
  | text message => exact Arrival.timedOut_ofText settles
  | binary message =>
      simp only [Arrival.ofEvent] at settles
      split at settles
      · exact Arrival.timedOut_ofText settles
      · cases settles
        rfl
  | control => cases settles
  | close =>
      cases settles
      rfl
  | broken cause =>
      cases settles
      rfl
  | silence =>
      cases settles
      rfl

end Silences

namespace Connection

variable {wait : Nat} {connection after : Connection}
  {events others taken : List Event}
  {answer : Except StoreError (Option Json)}

/-- A pull takes one silence if it waited in vain, and none otherwise. -/
theorem Pulled.silences (pulled : Pulled wait connection taken answer after) :
    taken.countP Event.isSilence = (timedOut answer).toNat := by
  induction pulled with
  | atHand => rfl
  | done => rfl
  | ended => rfl
  | passed idle later ih =>
      rw [List.countP_cons, Event.isSilence_of_idle idle, ih]
      rfl
  | settled settles =>
      rw [Event.timedOut_of_settles settles, List.countP_singleton]
      cases Event.isSilence _ <;> rfl

/-- Waiting in vain leaves the connection as it was. -/
theorem Pulled.unchanged (pulled : Pulled wait connection taken answer after)
    (inVain : timedOut answer = true) :
    answer = .error (.timeout wait) ∧ after.buffered = connection.buffered ∧
      after.finished = connection.finished := by
  induction pulled with
  | atHand => cases inVain
  | done => cases inVain
  | ended => cases inVain
  | passed idle later ih => exact ih inVain
  | @settled event _ _ _ _ settles =>
      rw [Event.timedOut_of_settles settles] at inVain
      cases event with
      | silence =>
          cases settles
          exact ⟨rfl, rfl, rfl⟩
      | _ => cases inVain

theorem unchanged_of_next (next : connection.next wait = (answer, after))
    (inVain : timedOut answer = true) :
    answer = .error (.timeout wait) ∧ after.buffered = connection.buffered ∧
      after.finished = connection.finished := by
  obtain ⟨_, pulled⟩ := pulled_next wait connection
  rw [next] at pulled
  exact pulled.unchanged inVain

/-- A connection with interruptions is where the other one is, but for events
that have no bearing on what is pulled next. -/
structure Follows (wait : Nat) (connection alone : Connection) : Prop where
  buffered : connection.buffered = alone.buffered
  finished : connection.finished = alone.finished
  next : ∃ events, Interrupted events connection.incoming ∧
    alone.next wait =
      next wait ⟨events, connection.buffered, connection.finished⟩

theorem follows_of_interrupted (wait : Nat)
    (interrupted : Interrupted events others) (buffered : List Json)
    (finished : Bool) :
    Follows wait ⟨others, buffered, finished⟩ ⟨events, buffered, finished⟩ :=
  ⟨rfl, rfl, events, interrupted, rfl⟩

theorem Follows.of_next_eq {alone other : Connection}
    (follows : Follows wait connection alone)
    (buffered : other.buffered = alone.buffered)
    (finished : other.finished = alone.finished)
    (same : other.next wait = alone.next wait) :
    Follows wait connection other := by
  obtain ⟨events, interrupted, next⟩ := follows.next
  exact ⟨follows.buffered.trans buffered.symm,
    follows.finished.trans finished.symm, events, interrupted,
    same.trans next⟩

/-- A pull that may be interrupted, beside one that is not: it was in vain, and
the other one is still to come, or both have the same answer. -/
inductive Alongside (wait : Nat) (alone : Connection) :
    Except StoreError (Option Json) × Connection →
    Except StoreError (Option Json) × Connection → Prop
  | inVain {answer : Except StoreError (Option Json)} {after : Connection}
      {plain : Except StoreError (Option Json) × Connection}
      (inVain : timedOut answer = true) (follows : Follows wait after alone) :
      Alongside wait alone (answer, after) plain
  | answered {answer : Except StoreError (Option Json)}
      {after left : Connection} (inTime : timedOut answer = false)
      (follows : Follows wait after left) :
      Alongside wait alone (answer, after) (answer, left)

theorem receive_alongside (wait : Nat)
    (interrupted : Interrupted events others) :
    Alongside wait ⟨events, [], false⟩ (receive wait others)
      (receive wait events) := by
  induction interrupted with
  | nil => exact .answered rfl (follows_of_interrupted wait .nil [] true)
  | @kept event events others notSilence rest ih =>
      rcases (Arrival.ofEvent wait event).idle_or_settles with
        idle | ⟨answer, buffered, finished, settles⟩
      · have same := receive_of_idle events idle
        rw [same, receive_of_idle others idle]
        generalize receive wait others = pulled at ih
        generalize receive wait events = plain at ih same
        cases ih with
        | inVain inVain follows =>
            refine .inVain inVain (follows.of_next_eq rfl rfl ?_)
            exact receive_of_idle events idle
        | answered inTime follows => exact .answered inTime follows
      · rw [receive_of_settles events settles,
          receive_of_settles others settles]
        refine .answered ?_ (follows_of_interrupted wait rest buffered finished)
        rw [Event.timedOut_of_settles settles,
          Event.isSilence_of_ne notSilence]
  | @control events others rest ih =>
      have idle : (Arrival.ofEvent wait .control).Idle := .nothing
      rw [receive_of_idle others idle]
      exact ih
  | @silence events others rest ih =>
      exact .inVain rfl (follows_of_interrupted wait rest [] false)

/-- What is still to be pulled is the same after a pull as before. -/
theorem Follows.alongside {alone : Connection}
    (follows : Follows wait connection alone) :
    Alongside wait alone (connection.next wait) (alone.next wait) := by
  obtain ⟨events, interrupted, next⟩ := follows.next
  obtain ⟨incoming, buffered, finished⟩ := connection
  rw [next]
  cases buffered with
  | cons record records =>
      exact .answered rfl
        (follows_of_interrupted wait interrupted records finished)
  | nil =>
      cases finished with
      | true =>
          exact .answered rfl (follows_of_interrupted wait interrupted [] true)
      | false =>
          have pulled := receive_alongside wait interrupted
          change Alongside wait alone (receive wait incoming)
            (receive wait events)
          generalize receive wait incoming = answered at pulled
          generalize receive wait events = plain at pulled
          cases pulled with
          | inVain inVain later =>
              exact .inVain inVain (later.of_next_eq follows.buffered.symm
                follows.finished.symm next)
          | answered inTime later => exact .answered inTime later

/-- Of pulls that may be interrupted, those that were not in vain are answered
as without interruptions. -/
theorem Follows.pulls (client : Client) {alone : Connection}
    (follows : Follows client.wait connection alone) (count : Nat) :
    ∃ plain, plain + (client.puller.pulls count connection).1.countP timedOut =
        count ∧
      (client.puller.pulls count connection).1.filter (!timedOut ·) =
        (client.puller.pulls plain alone).1 ∧
      Follows client.wait (client.puller.pulls count connection).2
        (client.puller.pulls plain alone).2 := by
  induction count generalizing connection alone with
  | zero => exact ⟨0, rfl, rfl, follows⟩
  | succ count ih =>
      have step := follows.alongside
      generalize pulled : connection.next client.wait = first at step
      generalize pulledAlone : alone.next client.wait = second at step
      cases step with
      | inVain inVain later =>
          obtain ⟨plain, total, same, last⟩ := ih later
          rw [Puller.pulls_succ pulled, List.countP_cons_of_pos inVain,
            List.filter_cons_of_neg (by rw [inVain]; exact Bool.false_ne_true)]
          exact ⟨plain, by rw [← Nat.add_assoc, total], same, last⟩
      | answered inTime later =>
          obtain ⟨plain, total, same, last⟩ := ih later
          refine ⟨plain + 1, ?_⟩
          rw [Puller.pulls_succ pulled, Puller.pulls_succ pulledAlone,
            List.countP_cons_of_neg (by rw [inTime]; exact Bool.false_ne_true),
            List.filter_cons_of_pos (by rw [inTime]; rfl), same]
          exact ⟨by rw [Nat.add_right_comm, total], rfl, last⟩

/-- As many pulls were in vain as silences were taken. -/
theorem PulledAll.silences {answers : List (Except StoreError (Option Json))}
    (pulled : PulledAll wait connection taken answers after) :
    taken.countP Event.isSilence = answers.countP timedOut := by
  induction pulled with
  | nil => rfl
  | @cons _ _ _ _ _ answer _ first rest ih =>
      rw [List.countP_append, first.silences, ih, List.countP_cons,
        Nat.add_comm]
      cases timedOut answer <;> rfl

/-- No more pulls are in vain than there are silences, so that every answer
comes in the end. -/
theorem Follows.take_pulls (client : Client) {alone : Connection}
    (follows : Follows client.wait connection alone) (count : Nat) :
    ((client.puller.pulls
        (count + connection.incoming.countP Event.isSilence)
        connection).1.filter (!timedOut ·)).take count =
      (client.puller.pulls count alone).1 := by
  obtain ⟨plain, total, answered, -⟩ := follows.pulls client
    (count + connection.incoming.countP Event.isSilence)
  obtain ⟨taken, all⟩ := pulledAll_pulls client
    (count + connection.incoming.countP Event.isSilence) connection
  have fewer : taken.countP Event.isSilence ≤
      connection.incoming.countP Event.isSilence := by
    have part : taken <+: connection.incoming := ⟨_, all.incoming_eq.symm⟩
    exact part.sublist.countP_le
  have silences := all.silences
  rw [answered]
  exact Puller.take_pulls client.puller (by omega) alone

/-- Silences and messages that mean nothing, wherever they are put in between,
change nothing but that the client waits in vain once for each silence it comes
to, which leaves the records at hand and whether the connection is done with as
they were: all other pulls are answered, one after the other, as they are
without the interruptions. -/
theorem pulls_interrupted (client : Client) {events others : List Event}
    (interrupted : Interrupted events others) (count : Nat) :
    ∃ answers reached plain alone,
      client.puller.pulls count (.opened others) = (answers, reached) ∧
      client.puller.pulls (count - answers.countP timedOut)
        (.opened events) = (plain, alone) ∧
      answers.filter (!timedOut ·) = plain ∧
      reached.buffered = alone.buffered ∧
      reached.finished = alone.finished ∧
      (∃ taken, others = taken ++ reached.incoming ∧
        taken.countP Event.isSilence = answers.countP timedOut) ∧
      (∀ answer after, client.next reached = (answer, after) →
        timedOut answer = true →
          answer = .error (.timeout client.wait) ∧
            after.buffered = reached.buffered ∧
            after.finished = reached.finished) ∧
      ((client.puller.pulls (count + others.countP Event.isSilence)
          (.opened others)).1.filter (!timedOut ·)).take count =
        (client.puller.pulls count (.opened events)).1 := by
  have follows : Follows client.wait (opened others) (opened events) :=
    follows_of_interrupted client.wait interrupted [] false
  obtain ⟨plain, total, answered, last⟩ := follows.pulls client count
  have inTime : count - (client.puller.pulls count
      (opened others)).1.countP timedOut = plain := by
    omega
  obtain ⟨taken, all⟩ := pulledAll_pulls client count (opened others)
  exact ⟨_, _, _, _, rfl, inTime ▸ rfl, answered, last.buffered,
    last.finished, ⟨taken, all.incoming_eq, all.silences⟩,
    fun answer after => unchanged_of_next, follows.take_pulls client count⟩

/-- Two records are pulled around two silences, and then the end. -/
theorem pulls_two_silences :
    Interrupted [firstResponse, lastResponse]
        [.silence, firstResponse, .control, .silence, lastResponse] ∧
      (((Client.mk "ws://store" 5).puller.pulls 5 (.opened
        [.silence, firstResponse, .control, .silence, lastResponse])).1.filter
          (!timedOut ·)).take 3 =
        [.ok (some (Json.ofNat 1)), .ok (some (Json.ofNat 7)), .ok none] := by
  have interrupted : Interrupted [firstResponse, lastResponse]
      [.silence, firstResponse, .control, .silence, lastResponse] :=
    .silence (.kept Event.noConfusion (.control (.silence
      (.kept Event.noConfusion .nil))))
  have before : Partial [firstResponse] [Json.ofNat 1] :=
    .cons firstResponse_continues .nil
  have uninterrupted := pulls_past_delivery ⟨"ws://store", 5⟩
    (.mk before lastResponse_completes) [] 0
  obtain ⟨_, _, _, _, -, -, -, -, -, -, -, same⟩ :=
    pulls_interrupted ⟨"ws://store", 5⟩ interrupted 3
  exact ⟨interrupted, same.trans (congrArg Prod.fst uninterrupted)⟩

end Connection

end GraphTable
