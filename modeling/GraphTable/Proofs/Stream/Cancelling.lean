import Mathlib
import GraphTable.Proofs.Stream.Cutoff
import GraphTable.Proofs.Stream.Feeding
import GraphTable.Status

/-!
# Sinks that cancel their query

A sink may hold a flag whose clone is the status of the query, and cancel it when
it has seen enough.  The run then ends at the next check, so that it pulls as
many records as the sink wanted to see, and at least one if there is one.
-/

namespace GraphTable

namespace Flags

variable {state : Flags} {first second : Nat} {cancelled : Bool}

/-- Two flags share a cell with this content. -/
def Share (state : Flags) (first second : Nat) (cancelled : Bool) : Prop :=
  ∃ cell, state.flags[first]? = some cell ∧
    state.flags[second]? = some cell ∧ state.cells[cell]? = some cancelled

theorem Share.isCancelled (share : state.Share first second cancelled) :
    state.isCancelled second = cancelled := by
  obtain ⟨cell, -, isCell, content⟩ := share
  simp only [Flags.isCancelled, isCell, content, Option.getD_some]

/-- A flag shares its cell with its clone. -/
theorem Share.clone (share : state.Share first second cancelled) :
    (state.step (.clone first)).Share state.flags.length second cancelled := by
  obtain ⟨cell, firstCell, secondCell, content⟩ := share
  have within := (List.getElem?_eq_some_iff.mp secondCell).1
  simp only [step, firstCell]
  refine ⟨cell, ?_, ?_, content⟩
  · exact List.getElem?_concat_length
  · rw [List.getElem?_append_left within, secondCell]

/-- Cancelling one of the flags cancels the other one. -/
theorem Share.cancel (share : state.Share first second cancelled) :
    (state.step (.cancel first)).Share first second true := by
  obtain ⟨cell, firstCell, secondCell, content⟩ := share
  have within := (List.getElem?_eq_some_iff.mp content).1
  simp only [step, firstCell]
  exact ⟨cell, firstCell, secondCell, List.getElem?_set_self within⟩

/-- A flag as the status of a query. -/
def watch (flag : Nat) : Status Flags where
  isRunning flags := (flags.isRunning flag, flags)

theorem Share.watch (share : state.Share first second cancelled) :
    (Flags.watch second).isRunning state = (!cancelled, state) := by
  simp only [Flags.watch, Flags.isRunning, share.isCancelled]

end Flags

/-- Cancel a flag once a sink has seen a number of candidates. -/
def BlockSink.cancelling (flag limit : Nat) (sink : BlockSink)
    (flags : Flags) : Flags :=
  if limit ≤ sink.candidates then flags.step (.cancel flag) else flags

theorem Flags.Share.cancelling {flags : Flags} {own watched : Nat}
    (limit : Nat) (sink : BlockSink) {cancelled : Bool}
    (share : flags.Share own watched cancelled)
    (notYet : sink.candidates < limit → cancelled = false) :
    (BlockSink.cancelling own limit sink flags).Share own watched
      (decide (limit ≤ sink.candidates)) := by
  unfold BlockSink.cancelling
  split
  next enough => exact decide_eq_true enough ▸ share.cancel
  next short =>
    rw [notYet (Nat.lt_of_not_le short)] at share
    exact decide_eq_false short ▸ share

namespace Stream

variable {projector : Projector} {own watched limit : Nat}
  {records left : List Json} {world after : BlockSink × Flags}
  {stats : StreamStats}

/-- An open sink that has not seen more candidates than it wants to see, beside a
flag that is cancelled if it has seen them. -/
structure Limited (own watched limit : Nat) (world : BlockSink × Flags) :
    Prop where
  isOpen : world.1.isClosed = false
  within : world.1.candidates ≤ max limit 1
  share : world.2.Share own watched
    (decide (max limit 1 ≤ world.1.candidates))

theorem Limited.fresh {flags : Flags} (blockSize limit : Nat)
    (share : flags.Share own watched false) :
    Limited own watched limit (BlockSink.new blockSize, flags) where
  isOpen := rfl
  within := Nat.zero_le _
  share := by
    have short : ¬max limit 1 ≤ (BlockSink.new blockSize).candidates :=
      Nat.not_le_of_lt (Nat.le_max_right limit 1)
    exact decide_eq_false short ▸ share

/-- The query is wanted until the sink has seen enough. -/
theorem Limited.checked (limited : Limited own watched limit world) :
    (Flags.watch watched).isRunning world.2 =
      (decide (world.1.candidates < max limit 1), world.2) := by
  rw [limited.share.watch, ← decide_not, decide_eq_decide.mpr Nat.not_le]

theorem Limited.offer {sink : BlockSink} {flags : Flags}
    (limited : Limited own watched limit (sink, flags))
    (short : sink.candidates < max limit 1) (candidate : Option Row) :
    let next := (sink.offer candidate).2
    next.candidates = sink.candidates + 1 ∧
      Limited own watched limit
        (next, BlockSink.cancelling own limit next flags) := by
  obtain ⟨next, offered, took⟩ := BlockSink.offer_took limited.isOpen candidate
  rw [offered]
  have counted : next.candidates = sink.candidates + 1 := took.counted
  have within : next.candidates ≤ max limit 1 := by
    omega
  have enough : limit ≤ next.candidates ↔ max limit 1 ≤ next.candidates := by
    omega
  have share := limited.share.cancelling limit next fun _ =>
    decide_eq_false (Nat.not_le_of_lt short)
  rw [decide_eq_decide.mpr enough] at share
  exact ⟨counted, took.isOpen, within, share⟩

/-- A run that feeds such a sink goes on until the sink has seen enough, or all
records. -/
theorem Feeds.length_of_limited
    (feeds : Feeds projector (BlockSink.cancelling own limit)
      (Flags.watch watched) records world stats left after)
    (limited : Limited own watched limit world) :
    world.1.candidates + records.length =
        min (max limit 1) (world.1.candidates + records.length) +
          left.length ∧
      stats.cancelled =
        decide (max limit 1 ≤ world.1.candidates + records.length) ∧
      after.2.Share own watched stats.cancelled := by
  induction feeds with
  | @cancelled records sink flags checked refused =>
      obtain ⟨notWanted, rfl⟩ := Prod.mk.inj (limited.checked.symm.trans refused)
      have reached : max limit 1 ≤ sink.candidates :=
        Nat.le_of_not_lt (of_decide_eq_false notWanted)
      have within : sink.candidates ≤ max limit 1 := limited.within
      have enough : max limit 1 ≤ sink.candidates + records.length :=
        Nat.le_trans reached (Nat.le_add_right _ _)
      refine ⟨?_, (decide_eq_true enough).symm, ?_⟩
      · rw [min_eq_left enough, Nat.le_antisymm within reached]
      · exact decide_eq_true reached ▸ limited.share
  | @exhausted sink flags checked wanted =>
      obtain ⟨isWanted, rfl⟩ := Prod.mk.inj (limited.checked.symm.trans wanted)
      have short : sink.candidates < max limit 1 := of_decide_eq_true isWanted
      have notEnough := decide_eq_false (Nat.not_le_of_lt short)
      refine ⟨?_, notEnough.symm, ?_⟩
      · exact (min_eq_right (Nat.le_of_lt short)).symm
      · exact notEnough ▸ limited.share
  | @fed record records left sink next flags checked stats after wanted offered
      behind ih =>
      obtain ⟨isWanted, rfl⟩ := Prod.mk.inj (limited.checked.symm.trans wanted)
      have short : sink.candidates < max limit 1 := of_decide_eq_true isWanted
      obtain ⟨counted, nextLimited⟩ :=
        limited.offer short (projector.candidate? record)
      rw [offered] at counted nextLimited
      obtain ⟨counts, ended, last⟩ := ih nextLimited
      have seen : next.candidates + records.length =
          sink.candidates + (record :: records).length := by
        rw [counted, List.length_cons]
        omega
      rw [seen] at counts ended
      exact ⟨counts, ended, last⟩

/-- A fresh sink that cancels a flag once it has seen a number of candidates,
while the flag is the status of the run.  The run pulls as many records as the
sink wanted to see, at least one, and at most all.  It is cancelled if there are
that many, its rows are those of the records that it pulled, and it leaves the
other records. -/
theorem cancelling_stops_at_limit (projector : Projector)
    (blockSize limit : Nat) (records : List Json) {flags : Flags}
    (share : flags.Share own watched false) :
    let count := min (max limit 1) records.length
    let rows := projector.rows (records.take count)
    let enough := decide (max limit 1 ≤ records.length)
    ∃ after flagsAfter,
      run Puller.records.cursor projector
          (BlockSink.reacting (BlockSink.cancelling own limit)).beside
          (Flags.watch watched).beside.beside
          (records, BlockSink.new blockSize, flags) =
        (some (.ok (.counting count rows.length enough)), records.drop count,
          after, flagsAfter) ∧
      after.rows = rows ∧ after.rowsWritten = rows.length ∧
      after.candidates = count ∧ after.isClosed = false ∧
      flagsAfter.Share own watched enough := by
  intro count rows enough
  have isOpen : (BlockSink.new blockSize).isClosed = false := rfl
  obtain ⟨stats, left, after, feeds, ran⟩ := run_feeds isOpen projector
    (BlockSink.cancelling own limit) (Flags.watch watched) records flags
  obtain ⟨taken, fed⟩ := feeds.exists_fed
  obtain ⟨counts, ended, last⟩ :=
    feeds.length_of_limited (Limited.fresh blockSize limit share)
  have fresh : (BlockSink.new blockSize).candidates = 0 := rfl
  rw [fresh, Nat.zero_add] at counts
  rw [fresh, Nat.zero_add] at ended
  have length : taken.length = count := by
    have whole := congrArg List.length fed.records_eq
    rw [List.length_append, counts] at whole
    exact Nat.add_right_cancel whole.symm
  have isTake : records.take count = taken := length ▸ fed.take_eq
  have isDrop : records.drop count = left := length ▸ fed.drop_eq
  have statsEq := fed.stats_eq
  rw [length, ended, ← isTake] at statsEq
  have took := fed.took isOpen
  have held := took.rows
  have written := took.written
  have counted := took.counted
  rw [← Projector.rows_eq, ← isTake] at held written
  rw [Projector.candidates, List.length_map, length] at counted
  refine ⟨after.1, after.2, ?_, held.trans (List.nil_append _),
    written.trans (Nat.zero_add _), counted.trans (Nat.zero_add _),
    took.isOpen, ?_⟩
  · rw [ran, statsEq, isDrop]
  · rw [ended] at last
    exact last

/-- The clone of a flag is cancelled at the second of three records, of which the
first makes a row and the second, a null, does not. -/
theorem cancelling_stops_at_null :
    let flags := Flags.single.step (.clone 0)
    let records := [Json.ofNat 1, .null, Json.ofNat 3]
    flags.Share 1 0 false ∧
    ∃ after flagsAfter,
      run Puller.records.cursor Rehearsal.idProjector
          (BlockSink.reacting (BlockSink.cancelling 1 2)).beside
          (Flags.watch 0).beside.beside (records, BlockSink.new 100, flags) =
        (some (.ok ⟨2, 1, true⟩), [Json.ofNat 3], after, flagsAfter) ∧
      after.rows = [Rehearsal.idRow 1] ∧ after.candidates = 2 ∧
      flagsAfter.isCancelled 0 = true := by
  intro flags records
  have share : flags.Share 1 0 false :=
    Flags.Share.clone ⟨0, rfl, rfl, rfl⟩
  have onlyRow : Rehearsal.idProjector.rows
      (records.take (min (max 2 1) records.length)) =
        [Rehearsal.idRow 1] := by
    cbv
  obtain ⟨after, flagsAfter, ran, rows, -, counted, -, ended⟩ :=
    cancelling_stops_at_limit Rehearsal.idProjector 100 2 records share
  rw [onlyRow] at ran rows
  exact ⟨share, after, flagsAfter, ran, rows, counted, ended.isCancelled⟩

end Stream

end GraphTable
