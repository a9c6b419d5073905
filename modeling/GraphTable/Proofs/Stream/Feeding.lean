import GraphTable.Proofs.Sink.Blocks
import GraphTable.Proofs.Stream.Full
import GraphTable.Proofs.Stream.Relay

/-!
# Feeding a block sink

A run over records at hand feeds their projections to a block sink, one for each
check that finds the query wanted.  `Feeds` is such a run as a relation, for any
status and for whatever the taking of a candidate sets off beside the sink.  The
sink ends up as if it had been offered the projections directly.
-/

namespace GraphTable

variable {τ : Type}

namespace BlockSink

/-- An open block sink beside the rest of the world, which reacts to each
candidate that the sink has taken. -/
def reacting (react : BlockSink → τ → τ) : Sink (BlockSink × τ) where
  write produce world :=
    let ((answer, sink), after) := world.1.write produce world
    match answer with
    | .ok count => (.ok count, (sink, react sink after.2))
    | .error error => (.error error, (sink, after.2))

/-- The sink after the projections of records were offered to it. -/
def offerAll (projector : Projector) (sink : BlockSink)
    (records : List Json) : BlockSink :=
  sink.serveAll ((projector.candidates records).map .write)

variable {projector : Projector} {sink : BlockSink}

theorem offerAll_append (first second : List Json) :
    sink.offerAll projector (first ++ second) =
      (sink.offerAll projector first).offerAll projector second := by
  simp [offerAll, serveAll, Projector.candidates]

theorem offerAll_took (isOpen : sink.isClosed = false) (records : List Json) :
    sink.Took (projector.candidates records)
      (sink.offerAll projector records) :=
  serveAll_took isOpen (projector.candidates records)

theorem reacting_pure (react : BlockSink → τ → τ)
    (isOpen : sink.isClosed = false) (candidate : Option Row) (rest : τ) :
    (reacting react).write (pure candidate) (sink, rest) =
      (.ok (.ofNat candidate.toList.length), (sink.offer candidate).2,
        react (sink.offer candidate).2 rest) := by
  obtain ⟨next, offered, -⟩ := offer_took isOpen candidate
  simp only [reacting, write_pure, offered]

end BlockSink

theorem Sink.beside_pure {κ : Type} {sink : Sink τ} {rest after : τ}
    {answer : Except SinkError UInt64} {candidate : Option Row} (state : κ)
    (offered : sink.write (pure candidate) rest = (answer, after)) :
    sink.beside.write (pure candidate) (state, rest) =
      (answer, state, after) := by
  change ((sink.write (pure candidate) rest).1, state,
    (sink.write (pure candidate) rest).2) = _
  rw [offered]

theorem Status.beside_isRunning {κ : Type} {status : Status τ}
    {rest after : τ} {running : Bool} (state : κ)
    (checked : status.isRunning rest = (running, after)) :
    status.beside.isRunning (state, rest) = (running, state, after) := by
  simp only [Status.beside, checked]

namespace Stream

/-- A run that feeds records to an open block sink: the records and the world
that it finds, what it has done in the end, and the records and the world that
it leaves. -/
inductive Feeds (projector : Projector) (react : BlockSink → τ → τ)
    (status : Status τ) : List Json → BlockSink × τ → StreamStats →
    List Json → BlockSink × τ → Prop
  | cancelled {records : List Json} {sink : BlockSink} {rest checked : τ}
      (refused : status.isRunning rest = (false, checked)) :
      Feeds projector react status records (sink, rest) ⟨0, 0, true⟩ records
        (sink, checked)
  | exhausted {sink : BlockSink} {rest checked : τ}
      (wanted : status.isRunning rest = (true, checked)) :
      Feeds projector react status [] (sink, rest) {} []
        (sink, checked)
  | fed {record : Json} {records left : List Json} {sink next : BlockSink}
      {rest checked : τ} {stats : StreamStats} {after : BlockSink × τ}
      (wanted : status.isRunning rest = (true, checked))
      (offered : (sink.offer (projector.candidate? record)).2 = next)
      (behind : Feeds projector react status records
        (next, react next checked) stats left after) :
      Feeds projector react status (record :: records) (sink, rest)
        (stats.add (.ofNat (projector.rows [record]).length)) left after

variable {projector : Projector} {react : BlockSink → τ → τ}
  {status : Status τ} {sink : BlockSink} {rest : τ}

/-- One round over the records at hand, by what the check says and by what is
left. -/
theorem round_feeding (isOpen : sink.isClosed = false) (records : List Json)
    (stats : StreamStats) :
    round Puller.records.cursor projector
        (BlockSink.reacting react).beside status.beside.beside stats
        (records, sink, rest) =
      match status.isRunning rest, records with
      | (false, checked), records =>
          (.done (.ok { stats with cancelled := true }),
            (records, sink, checked))
      | (true, checked), [] => (.done (.ok stats), ([], sink, checked))
      | (true, checked), record :: records =>
          (.again (stats.add (.ofNat (projector.rows [record]).length)),
            (records, (sink.offer (projector.candidate? record)).2,
              react (sink.offer (projector.candidate? record)).2 checked)) := by
  rcases checked : status.isRunning rest with ⟨running, afterCheck⟩
  have check := Status.beside_isRunning records
    (Status.beside_isRunning sink checked)
  rw [round_apply, check]
  cases running with
  | false => rfl
  | true =>
      cases records with
      | nil => rfl
      | cons record records =>
          have written := Sink.beside_pure records
            (BlockSink.reacting_pure react isOpen
              (projector.candidate? record) afterCheck)
          have count : (projector.candidate? record).toList.length =
              (projector.rows [record]).length := by
            cases candidate : projector.candidate? record <;>
              simp [Projector.rows, candidate]
          have pulled : (Puller.records.cursor).next
              (record :: records, sink, afterCheck) =
                (.ok (some record), records, sink, afterCheck) :=
            rfl
          simp only [pulled, written, count]

/-- As many rounds as there are records, and one more, are a run. -/
theorem rounds_feeds (isOpen : sink.isClosed = false) {records : List Json}
    {limit : Nat} (enough : records.length < limit)
    (pulled written : UInt64) :
    ∃ stats left after,
      Feeds projector react status records (sink, rest) stats left after ∧
      rounds Puller.records.cursor projector
          (BlockSink.reacting react).beside status.beside.beside limit
          ⟨pulled, written, false⟩ (records, sink, rest) =
        (some (.ok ⟨pulled + stats.pulled, written + stats.written,
          stats.cancelled⟩), left, after) := by
  induction limit generalizing records sink rest pulled written with
  | zero => omega
  | succ limit ih =>
      rw [rounds_succ, round_feeding isOpen]
      rcases checked : status.isRunning rest with ⟨_ | _, afterCheck⟩
      · exact ⟨_, _, _, .cancelled checked,
          by simp only [UInt64.add_zero]⟩
      · cases records with
        | nil =>
            exact ⟨_, _, _, .exhausted checked, by simp only [UInt64.add_zero]⟩
        | cons record records =>
            obtain ⟨next, offered, took⟩ :=
              BlockSink.offer_took isOpen (projector.candidate? record)
            have nextEq := congrArg Prod.snd offered
            obtain ⟨stats, left, after, behind, ended⟩ :=
              ih took.isOpen (Nat.lt_of_succ_lt_succ enough) (pulled + 1)
                (written + .ofNat (projector.rows [record]).length)
            refine ⟨_, _, _, .fed checked nextEq behind, ?_⟩
            simp only [nextEq]
            rw [StreamStats.add, ended, StreamStats.add]
            simp only [UInt64.add_assoc, UInt64.add_comm 1,
              UInt64.add_comm stats.written]

/-- Every run over records at hand into an open block sink feeds it. -/
theorem run_feeds (isOpen : sink.isClosed = false) (projector : Projector)
    (react : BlockSink → τ → τ) (status : Status τ) (records : List Json)
    (rest : τ) :
    ∃ stats left after,
      Feeds projector react status records (sink, rest) stats left after ∧
      run Puller.records.cursor projector (BlockSink.reacting react).beside
          status.beside.beside (records, sink, rest) =
        (some (.ok stats), left, after) := by
  obtain ⟨stats, left, after, feeds, ended⟩ := rounds_feeds isOpen
    (Nat.lt_succ_self records.length) 0 0
  rw [UInt64.zero_add, UInt64.zero_add] at ended
  exact ⟨stats, left, after, feeds, ended⟩

/-- What is known of a run from the records that it fed to the sink. -/
structure Fed (projector : Projector) (sink : BlockSink)
    (records : List Json) (stats : StreamStats) (left : List Json)
    (after : BlockSink) (taken : List Json) : Prop where
  records_eq : records = taken ++ left
  after_eq : after = sink.offerAll projector taken
  pulled_eq : stats.pulled = .ofNat taken.length
  written_eq : stats.written = .ofNat (projector.rows taken).length
  whole : stats.cancelled = false → left = []

section Fed

variable {records left taken : List Json} {stats : StreamStats}
  {after : BlockSink}

/-- The sink took the projections of the records that were fed. -/
theorem Fed.took (fed : Fed projector sink records stats left after taken)
    (isOpen : sink.isClosed = false) :
    sink.Took (projector.candidates taken) after := by
  rw [fed.after_eq]
  exact BlockSink.offerAll_took isOpen taken

theorem Fed.take_eq (fed : Fed projector sink records stats left after taken) :
    records.take taken.length = taken := by
  rw [fed.records_eq, List.take_left]

theorem Fed.drop_eq (fed : Fed projector sink records stats left after taken) :
    records.drop taken.length = left := by
  rw [fed.records_eq, List.drop_left]

theorem Fed.stats_eq (fed : Fed projector sink records stats left after taken) :
    stats = .counting taken.length (projector.rows taken).length
      stats.cancelled := by
  rw [StreamStats.counting, ← fed.pulled_eq, ← fed.written_eq]

/-- Without a cancellation all records are fed. -/
theorem Fed.eq_of_uncancelled
    (fed : Fed projector sink records stats left after taken)
    (uncancelled : stats.cancelled = false) :
    taken = records ∧
      stats = .counting records.length (projector.rows records).length
        false := by
  have all : taken = records := by
    have split := fed.records_eq
    rw [fed.whole uncancelled, List.append_nil] at split
    exact split.symm
  have counts := fed.stats_eq
  rw [all, uncancelled] at counts
  exact ⟨all, counts⟩

end Fed

theorem Feeds.exists_fed {records left : List Json} {stats : StreamStats}
    {world after : BlockSink × τ}
    (feeds : Feeds projector react status records world stats left after) :
    ∃ taken, Fed projector world.1 records stats left after.1 taken := by
  induction feeds with
  | cancelled refused => exact ⟨[], rfl, rfl, rfl, rfl, nofun⟩
  | exhausted wanted => exact ⟨[], rfl, rfl, rfl, rfl, fun _ => rfl⟩
  | @fed record records left sink next rest checked stats after wanted offered
      behind ih =>
      obtain ⟨taken, fed⟩ := ih
      refine ⟨record :: taken, congrArg (record :: ·) fed.records_eq, ?_, ?_,
        ?_, fed.whole⟩
      · rw [fed.after_eq, ← offered]
        rfl
      · rw [StreamStats.add, fed.pulled_eq, List.length_cons, UInt64.ofNat_add]
        rfl
      · rw [StreamStats.add, fed.written_eq, projector.rows_cons record taken,
          List.length_append, Nat.add_comm, UInt64.ofNat_add]

end Stream

end GraphTable
