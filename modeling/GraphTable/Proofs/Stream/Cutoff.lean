import Mathlib
import GraphTable.Proofs.Stream.Full

/-!
# Runs that are cut off

A run over records at hand takes as many of them as there are checks, one after
the other, that find the query wanted.  The run is known from this number alone:
its statistics, the rows that it adds to the sink, and the records that it
leaves.
-/

namespace GraphTable

/-- The first check that does not find the query wanted, infinite if there is
none. -/
noncomputable def firstRefusal (wantedAt : Nat → Bool) : ℕ∞ :=
  ⨅ (check : Nat) (_ : wantedAt check = false), (check : ℕ∞)

theorem le_firstRefusal_iff {wantedAt : Nat → Bool} {count : Nat} :
    (count : ℕ∞) ≤ firstRefusal wantedAt ↔
      ∀ check < count, wantedAt check = true := by
  rw [firstRefusal, le_iInf₂_iff]
  constructor
  · intro least check below
    cases wanted : wantedAt check with
    | true => rfl
    | false =>
        have notBelow := Nat.cast_le.mp (least check wanted)
        omega
  · intro allWanted check refused
    rw [Nat.cast_le]
    by_contra below
    have wanted := allWanted check (by omega)
    rw [refused] at wanted
    cases wanted

/-- Of a number of records, a query is wanted for some: for all of them, or for
those before the first refusal. -/
theorem exists_cutoff (wantedAt : Nat → Bool) (length : Nat) :
    ∃ count : Nat, (count : ℕ∞) = min (firstRefusal wantedAt) length ∧
      (∀ check < count, wantedAt check = true) ∧ count ≤ length ∧
      (firstRefusal wantedAt ≤ length ∧ wantedAt count = false ∨
        ¬firstRefusal wantedAt ≤ length ∧ wantedAt count = true ∧
          count = length) := by
  by_cases refused : firstRefusal wantedAt ≤ length
  · obtain ⟨count, isFirst⟩ := ENat.ne_top_iff_exists.mp
      (ne_top_of_le_ne_top (ENat.natCast_ne_top length) refused)
    have within : count ≤ length := by
      rw [← isFirst, Nat.cast_le] at refused
      exact refused
    have before := le_firstRefusal_iff.mp (le_of_eq isFirst)
    have notLater : ¬((count + 1 : Nat) : ℕ∞) ≤ firstRefusal wantedAt := by
      rw [← isFirst, Nat.cast_le]
      omega
    refine ⟨count, ?_, before, within, .inl ⟨refused, ?_⟩⟩
    · rw [isFirst, min_eq_left refused]
    · rw [le_firstRefusal_iff] at notLater
      push Not at notLater
      obtain ⟨check, below, notWanted⟩ := notLater
      have isCount : check = count := by
        by_contra other
        exact notWanted (before check (by omega))
      rw [← isCount]
      exact Bool.eq_false_iff.mpr notWanted
  · have beyond : ((length + 1 : Nat) : ℕ∞) ≤ firstRefusal wantedAt := by
      rw [Nat.cast_add, Nat.cast_one]
      exact Order.add_one_le_of_lt (not_le.mp refused)
    have allWanted := le_firstRefusal_iff.mp beyond
    refine ⟨length, ?_, fun check below => allWanted check (by omega),
      Nat.le_refl _, .inr ⟨refused, allWanted length (by omega), rfl⟩⟩
    exact (min_eq_right (le_of_lt (not_le.mp refused))).symm

namespace Rehearsal

variable {projector : Projector} {sink : BlockSink}

/-- As many rounds pass records on as there are checks at the start that find
the query wanted. -/
theorem started_rounds (projector : Projector) (wantedAt : Nat → Bool)
    (records : List Json) (isOpen : sink.isClosed = false) {count : Nat}
    (within : count ≤ records.length)
    (wanted : ∀ check < count, wantedAt check = true) (limit : Nat) :
    ∃ after,
      Stream.rounds (cursorOf .records) projector sinkOf (statusAt wantedAt)
          (count + limit) {} (started records ⟨sink, {}⟩) =
        Stream.rounds (cursorOf .records) projector sinkOf (statusAt wantedAt)
          limit (.counting count (projector.rows (records.take count)).length
            false) after ∧
      after.checks = count ∧ after.cursor = records.drop count ∧
      sink.Took (projector.candidates (records.take count))
        after.sink.inner := by
  have free : (started records ⟨sink, {}⟩).Free := ⟨rfl, isOpen, rfl⟩
  have taken : (records.take count).length = count :=
    List.length_take_of_le within
  have checked : ∀ later : Rehearsal (List Json), later.Free →
      (started records ⟨sink, {}⟩).checks ≤ later.checks →
      later.checks < (started records ⟨sink, {}⟩).checks +
        (records.take count).length →
        (statusAt wantedAt).isRunning later =
          (true, { later with checks := later.checks + 1 }) := by
    intro later _ _ before
    have zero : (started records ⟨sink, {}⟩).checks = 0 := rfl
    have now := wanted later.checks (by omega)
    simp only [statusAt, now]
  obtain ⟨after, others, passed, counted⟩ := free.rounds projector
    (records.take count) (List.take_append_drop count records).symm checked 0 0
    limit
  have whole : records = records.take count ++ after.cursor := passed.pulled
  refine ⟨after, ?_, ?_, ?_, passed.took⟩
  · rw [taken] at others
    simpa using others
  · rw [counted, taken]
    exact Nat.zero_add count
  · have split : records.take count ++ after.cursor =
        records.take count ++ records.drop count := by
      rw [← whole, List.take_append_drop]
    exact List.append_cancel_left split

/-- A run over records at hand takes as many of them as the query is wanted for,
and no more.  Its statistics count them and the rows that they make, it was
cancelled if the refusal came no later than the check behind the last record,
and just these rows are added to the sink. -/
theorem run_cutoff (projector : Projector) (wantedAt : Nat → Bool)
    (records : List Json) (isOpen : sink.isClosed = false) :
    ∃ (count : Nat) (stats : StreamStats) (after : Rehearsal (List Json)),
      (count : ℕ∞) = min (firstRefusal wantedAt) records.length ∧
      Stream.run (cursorOf .records) projector sinkOf (statusAt wantedAt)
          (started records ⟨sink, {}⟩) = (some (.ok stats), after) ∧
      stats.pulled = .ofNat count ∧
      stats.written = .ofNat (projector.rows (records.take count)).length ∧
      (stats.cancelled = true ↔ firstRefusal wantedAt ≤ records.length) ∧
      after.sink.inner.rows =
        sink.rows ++ projector.rows (records.take count) ∧
      after.sink.inner.rowsWritten =
        sink.rowsWritten + (projector.rows (records.take count)).length ∧
      after.sink.inner.candidates = sink.candidates + count ∧
      after.cursor = records.drop count := by
  obtain ⟨count, isCutoff, wanted, within, ending⟩ :=
    exists_cutoff wantedAt records.length
  obtain ⟨more, lengthEq⟩ := Nat.exists_eq_add_of_le within
  obtain ⟨last, passed, checks, left, took⟩ := started_rounds projector
    wantedAt records isOpen within wanted (more + 1)
  have ran : Stream.run (cursorOf .records) projector sinkOf (statusAt wantedAt)
      (started records ⟨sink, {}⟩) =
        Stream.rounds (cursorOf .records) projector sinkOf (statusAt wantedAt)
          (more + 1) (.counting count
            (projector.rows (records.take count)).length false) last := by
    rw [← passed, ← Nat.add_assoc, ← lengthEq]
    rfl
  have rows := took.rows
  have written := took.written
  have counted := took.counted
  rw [← Projector.rows_eq] at rows written
  rw [Projector.candidates, List.length_map,
    List.length_take_of_le within] at counted
  rw [Stream.rounds_succ, Stream.round_apply] at ran
  rcases ending with ⟨isRefused, refused⟩ | ⟨isWanted, wantedLast, isAll⟩
  · have checked : (statusAt wantedAt).isRunning last =
        (false, { last with checks := last.checks + 1 }) := by
      simp only [statusAt, checks, refused]
    rw [checked] at ran
    exact ⟨count, _, _, isCutoff, ran, rfl, rfl,
      by simp [isRefused], rows, written, counted, left⟩
  · have checked : (statusAt wantedAt).isRunning last =
        (true, { last with checks := last.checks + 1 }) := by
      simp only [statusAt, checks, wantedLast]
    have nothingLeft : last.cursor = [] := by
      rw [left, isAll, List.drop_length]
    have pulled := cursorOf_next_nil
      { last with checks := last.checks + 1 } nothingLeft
    simp only [checked, pulled] at ran
    refine ⟨count, _, _, isCutoff, ran, rfl, rfl,
      by simp [StreamStats.counting, isWanted], rows, written, counted, ?_⟩
    rw [← left, nothingLeft]

def idRow (id : Nat) : Row :=
  ⟨[("id", Json.ofNat id)]⟩

/-- A projector for a view of identifiers. -/
def idProjector : Projector :=
  .build [⟨"id", .int64⟩] .view (.ofOptions Dict.empty)

/-- A query that is refused at the third check leaves the third record, and
makes one row of the first two, of which one is null. -/
theorem run_cutoff_two :
    ∃ after : Rehearsal (List Json),
      Stream.run (cursorOf .records) idProjector sinkOf
          (statusAt fun check => check < 2)
          (started [Json.ofNat 1, .null, Json.ofNat 3]
            ⟨((BlockSink.new 2).offer (some (idRow 0))).2, {}⟩) =
        (some (.ok ⟨2, 1, true⟩), after) ∧
      after.sink.inner.rows = [idRow 0, idRow 1] ∧
      after.sink.inner.rowsWritten = 2 ∧ after.sink.inner.candidates = 3 ∧
      after.cursor = [Json.ofNat 3] := by
  have isOpen : ((BlockSink.new 2).offer (some (idRow 0))).2.isClosed =
      false := by
    decide
  have result : (Stream.run (cursorOf .records) idProjector sinkOf
      (statusAt fun check => check < 2)
      (started [Json.ofNat 1, .null, Json.ofNat 3]
        ⟨((BlockSink.new 2).offer (some (idRow 0))).2, {}⟩)).1 =
          some (.ok ⟨2, 1, true⟩) := by
    cbv
  have onlyRow : idProjector.rows [Json.ofNat 1, .null] = [idRow 1] := by
    cbv
  have oneLeft : (Stream.run (cursorOf .records) idProjector sinkOf
      (statusAt fun check => check < 2)
      (started [Json.ofNat 1, .null, Json.ofNat 3]
        ⟨((BlockSink.new 2).offer (some (idRow 0))).2, {}⟩)).2.cursor.length =
          1 := by
    cbv
  obtain ⟨count, stats, after, _, ran, -, -, _, rows, written, counted,
    left⟩ := run_cutoff idProjector (fun check => check < 2)
      [Json.ofNat 1, .null, Json.ofNat 3] isOpen
  rw [ran] at result oneLeft
  obtain rfl := Except.ok.inj (Option.some.inj result)
  obtain rfl : 2 = count := by
    rw [left, List.length_drop] at oneLeft
    change 3 - count = 1 at oneLeft
    omega
  have firstTwo : [Json.ofNat 1, .null, Json.ofNat 3].take 2 =
      [Json.ofNat 1, .null] :=
    rfl
  rw [firstTwo, onlyRow] at rows written
  exact ⟨after, ran, rows, written, counted, left⟩

end Rehearsal

end GraphTable
