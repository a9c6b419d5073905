import GraphTable.Proofs.Stream.Full

/-!
# Rows that runs add

A run over records at hand may be ended by the query, by the sink or by the end
of the records.  Whatever ends it, the rows that it has added to its sink by then
are the projections of the first records, in order, and of all of them if it was
neither cancelled nor refused.
-/

namespace GraphTable

namespace GuardedSink

variable {sink : GuardedSink} {candidate : Option Row}

/-- What a sink makes of a candidate: it refuses it and keeps its rows, or takes
it and adds the row, if there is one. -/
inductive Answered (sink : GuardedSink) (candidate : Option Row) :
    Except SinkError UInt64 → GuardedSink → Prop
  | refused {error : SinkError} {after : GuardedSink}
      (rows : after.inner.rows = sink.inner.rows) :
      Answered sink candidate (.error error) after
  | taken {after : GuardedSink}
      (rows : after.inner.rows = sink.inner.rows ++ candidate.toList) :
      Answered sink candidate (.ok (.ofNat candidate.toList.length)) after

theorem settle_rows (sink : GuardedSink) (inner : BlockSink) :
    (sink.settle inner).inner.rows = inner.rows := by
  unfold settle
  dsimp only
  split
  · exact inner.sealCurrent_rows
  · rfl

/-- Closing a sink once it has seen enough does not touch its rows. -/
theorem offer_answered (sink : GuardedSink) (candidate : Option Row) :
    sink.Answered candidate (sink.offer candidate).1
      (sink.offer candidate).2 := by
  unfold offer
  cases sink.refusal? with
  | some error => exact .refused rfl
  | none =>
      cases isClosed : sink.inner.isClosed with
      | true =>
          have refused : sink.inner.offer candidate =
              (.error (.closed sink.inner.rowsWritten), sink.inner) := by
            unfold BlockSink.offer
            rw [if_pos isClosed]
          simp only [refused]
          exact .refused (sink.settle_rows sink.inner)
      | false =>
          obtain ⟨inner, offered, took⟩ :=
            BlockSink.offer_took isClosed candidate
          simp only [offered]
          refine .taken ?_
          rw [settle_rows, took.rows]
          cases candidate <;> rfl

end GuardedSink

namespace Rehearsal

variable {projector : Projector} {wantedAt : Nat → Bool} {stats : StreamStats}
  {world after : Rehearsal (List Json)}

/-- A run has come to a result: it has added the rows of the first records, and
those of all records if it was neither cancelled nor refused. -/
structure Added (projector : Projector) (world : Rehearsal (List Json))
    (records : List Json) (result : Except StreamError StreamStats)
    (after : Rehearsal (List Json)) : Prop where
  isPrefix : records <+: world.cursor
  rows : after.sink.inner.rows =
    world.sink.inner.rows ++ projector.rows records
  whole : ∀ stats, result = .ok stats → stats.cancelled = false →
    records = world.cursor

theorem Added.cons {middle : Rehearsal (List Json)} {record : Json}
    {records : List Json} {result : Except StreamError StreamStats}
    (held : world.cursor = record :: middle.cursor)
    (added : middle.sink.inner.rows =
      world.sink.inner.rows ++ projector.rows [record])
    (later : Added projector middle records result after) :
    Added projector world (record :: records) result after := by
  refine ⟨?_, ?_, fun stats isOk uncancelled => ?_⟩
  · rw [held]
    exact (List.prefix_cons_inj record).mpr later.isPrefix
  · rw [later.rows, added, projector.rows_cons record records,
      List.append_assoc]
  · rw [held, later.whole stats isOk uncancelled]

theorem statusAt_checked {running : Bool}
    (checked : (statusAt wantedAt).isRunning world = (running, after)) :
    after.cursor = world.cursor ∧ after.sink = world.sink := by
  obtain rfl := congrArg Prod.snd checked
  exact ⟨rfl, rfl⟩

/-- A pull takes the first record at hand, if there is one. -/
theorem records_pulled {answer : Except StoreError (Option Json)}
    (pulled : (cursorOf .records).next world = (answer, after)) :
    after.sink = world.sink ∧
      (answer = .ok none ∧ world.cursor = [] ∨
        ∃ record, answer = .ok (some record) ∧
          world.cursor = record :: after.cursor) := by
  rcases held : world.cursor with _ | ⟨record, rest⟩
  · rw [cursorOf_next_nil world held] at pulled
    cases pulled
    exact ⟨rfl, .inl ⟨rfl, rfl⟩⟩
  · rw [cursorOf_next_cons world held] at pulled
    cases pulled
    exact ⟨rfl, .inr ⟨record, rfl, rfl⟩⟩

theorem sinkOf_answered {candidate : Option Row}
    {answer : Except SinkError UInt64}
    (offered : sinkOf.write (pure candidate) world = (answer, after)) :
    after.cursor = world.cursor ∧
      world.sink.Answered candidate answer after.sink := by
  rw [sinkOf_pure] at offered
  cases offered
  exact ⟨rfl, world.sink.offer_answered candidate⟩

theorem Added.nil {result : Except StreamError StreamStats}
    (same : after.sink.inner.rows = world.sink.inner.rows)
    (whole : ∀ stats, result = .ok stats → stats.cancelled = false →
      world.cursor = []) :
    Added projector world [] result after := by
  refine ⟨List.nil_prefix, ?_, fun stats isOk uncancelled => ?_⟩
  · rw [same, Projector.rows, List.filterMap_nil, List.append_nil]
  · exact (whole stats isOk uncancelled).symm

/-- A round passes a record on and adds its row, or it ends the run and adds
nothing. -/
theorem round_added {outcome : Stream.Outcome}
    (ended : Stream.round (cursorOf .records) projector sinkOf
      (statusAt wantedAt) stats world = (outcome, after)) :
    (∃ next record, outcome = .again next ∧
        world.cursor = record :: after.cursor ∧
        after.sink.inner.rows =
          world.sink.inner.rows ++ projector.rows [record]) ∨
      ∃ result, outcome = .done result ∧
        Added projector world [] result after := by
  cases Stream.round_cases ended with
  | cancelled checked =>
      obtain ⟨-, sameSink⟩ := statusAt_checked checked
      refine .inr ⟨_, rfl, .nil (by rw [sameSink]) ?_⟩
      rintro _ ⟨⟩ ⟨⟩
  | broken checked pulled =>
      obtain ⟨-, ⟨⟨⟩, -⟩ | ⟨record, ⟨⟩, -⟩⟩ := records_pulled pulled
  | exhausted checked pulled =>
      obtain ⟨sameCursor, sameSink⟩ := statusAt_checked checked
      obtain ⟨keptSink, ⟨-, nothing⟩ | ⟨record, ⟨⟩, -⟩⟩ := records_pulled pulled
      refine .inr ⟨_, rfl, .nil (by rw [keptSink, sameSink]) ?_⟩
      intro _ _ _
      rw [← sameCursor, nothing]
  | refused checked pulled offered =>
      obtain ⟨-, sameSink⟩ := statusAt_checked checked
      obtain ⟨keptSink, -⟩ := records_pulled pulled
      obtain ⟨-, answered⟩ := sinkOf_answered offered
      cases answered with
      | refused rows =>
          refine .inr ⟨_, rfl, .nil (by rw [rows, keptSink, sameSink]) ?_⟩
          rintro _ ⟨⟩
  | @written _ _ _ record _ checked pulled offered =>
      obtain ⟨sameCursor, sameSink⟩ := statusAt_checked checked
      obtain ⟨keptSink, ⟨⟨⟩, -⟩ | ⟨_, isRecord, held⟩⟩ :=
        records_pulled pulled
      cases isRecord
      obtain ⟨keptCursor, answered⟩ := sinkOf_answered offered
      cases answered with
      | taken rows =>
          refine .inl ⟨_, record, rfl, ?_, ?_⟩
          · rw [← sameCursor, held, keptCursor]
          · rw [rows, keptSink, sameSink]
            cases candidate : projector.candidate? record <;>
              simp [Projector.rows, candidate]

theorem rounds_added {limit : Nat} {result : Except StreamError StreamStats}
    (ended : Stream.rounds (cursorOf .records) projector sinkOf
      (statusAt wantedAt) limit stats world = (some result, after)) :
    ∃ records, Added projector world records result after := by
  induction limit generalizing stats world with
  | zero => cases ended
  | succ limit ih =>
      rw [Stream.rounds_succ] at ended
      rcases first : Stream.round (cursorOf .records) projector sinkOf
        (statusAt wantedAt) stats world with ⟨outcome, middle⟩
      rw [first] at ended
      rcases round_added first with
        ⟨next, record, rfl, held, added⟩ | ⟨_, rfl, added⟩
      · obtain ⟨records, later⟩ := ih ended
        exact ⟨record :: records, later.cons held added⟩
      · cases ended
        exact ⟨[], added⟩

/-- Every run over records at hand comes to a result, and adds the rows of the
first records. -/
theorem run_added (projector : Projector) (wantedAt : Nat → Bool)
    (world : Rehearsal (List Json)) :
    ∃ result after records,
      Stream.run (cursorOf .records) projector sinkOf (statusAt wantedAt)
        world = (some result, after) ∧
      Added projector world records result after := by
  have isSome := (records_keepsBound wantedAt).run_isSome projector world
  rcases ran : Stream.run (cursorOf .records) projector sinkOf
    (statusAt wantedAt) world with ⟨_ | result, after⟩
  · rw [ran] at isSome
    cases isSome
  · obtain ⟨records, added⟩ := rounds_added ran
    exact ⟨result, after, records, rfl, added⟩

end Rehearsal

end GraphTable
