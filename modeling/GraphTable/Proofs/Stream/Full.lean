import GraphTable.Proofs.Sink.Rows
import GraphTable.Proofs.Stream.Round
import GraphTable.Rehearsal

/-!
# Full runs

A run over records at hand that nothing interrupts offers the projection of
every record to the sink, in order, and then finds the end.
-/

namespace GraphTable

def Projector.candidates (projector : Projector) (records : List Json) :
    List (Option Row) :=
  records.map projector.candidate?

/-- The rows that a projector makes of records. -/
def Projector.rows (projector : Projector) (records : List Json) : List Row :=
  records.filterMap projector.candidate?

theorem Projector.rows_eq (projector : Projector) (records : List Json) :
    projector.rows records = (projector.candidates records).filterMap id := by
  rw [rows, candidates, List.filterMap_map]
  rfl

theorem Projector.rows_append (projector : Projector)
    (first second : List Json) :
    projector.rows (first ++ second) =
      projector.rows first ++ projector.rows second :=
  List.filterMap_append

theorem Projector.rows_cons (projector : Projector) (record : Json)
    (records : List Json) :
    projector.rows (record :: records) =
      projector.rows [record] ++ projector.rows records := by
  rw [← List.singleton_append, rows_append]

namespace Rehearsal

/-- A rehearsal in which nothing was done yet. -/
def started {κ : Type} (cursor : κ) (sink : GuardedSink) : Rehearsal κ :=
  { cursor := cursor, sink := sink, plan := {} }

/-- The status that finds the query wanted at some checks, which are counted
from 0. -/
def statusAt {κ : Type} (wantedAt : Nat → Bool) :
    Status (Rehearsal κ) where
  isRunning world :=
    (wantedAt world.checks, { world with checks := world.checks + 1 })

/-- Nothing interrupts a run: the sink is open and has no limits, and the query
is always wanted. -/
structure Free (world : Rehearsal (List Json)) : Prop where
  unlimited : world.sink.limits = {}
  isOpen : world.sink.inner.isClosed = false
  wanted : world.plan = {}

/-- The records were pulled, and their projections were offered to the sink. -/
structure Passed (projector : Projector) (world : Rehearsal (List Json))
    (records : List Json) (after : Rehearsal (List Json)) : Prop where
  pulled : world.cursor = records ++ after.cursor
  took : world.sink.inner.Took (projector.candidates records) after.sink.inner
  free : after.Free

variable {projector : Projector} {world : Rehearsal (List Json)}

theorem Passed.nil (free : world.Free) : Passed projector world [] world :=
  ⟨rfl, .nil free.isOpen, free⟩

theorem Passed.append {middle after : Rehearsal (List Json)}
    {first second : List Json} (before : Passed projector world first middle)
    (later : Passed projector middle second after) :
    Passed projector world (first ++ second) after := by
  refine ⟨?_, ?_, later.free⟩
  · rw [before.pulled, later.pulled, List.append_assoc]
  · rw [Projector.candidates, List.map_append]
    exact before.took.append later.took

theorem Free.checked (free : world.Free) :
    status.isRunning world =
      (true, { world with checks := world.checks + 1 }) := by
  have wanted : world.isWanted = true := by
    rw [isWanted, free.wanted]
    rfl
  change (world.isWanted, _) = _
  rw [wanted]

theorem sinkOf_write {κ : Type} (produce : StateM (Rehearsal κ) (Option Row))
    (world : Rehearsal κ) :
    sinkOf.write produce world =
      let ((result, sink), world) := world.sink.write produce world
      (result, keepSink sink world) :=
  rfl

theorem sinkOf_pure {κ : Type} (candidate : Option Row)
    (world : Rehearsal κ) :
    sinkOf.write (pure candidate) world =
      ((world.sink.offer candidate).1,
        keepSink (world.sink.offer candidate).2 world) := by
  rw [sinkOf_write, GuardedSink.write_pure]

/-- A free sink takes every candidate. -/
theorem Free.written (free : world.Free) (candidate : Option Row) :
    ∃ inner,
      sinkOf.write (pure candidate) world =
        (.ok (.ofNat candidate.toList.length),
          { world with sink := ⟨inner, {}⟩ }) ∧
      world.sink.inner.Took [candidate] inner := by
  obtain ⟨cursor, ⟨inner, limits⟩, plan, pulls, checks, submitted, sent⟩ :=
    world
  obtain ⟨unlimited, isOpen, wanted⟩ := free
  cases unlimited
  cases wanted
  obtain ⟨after, offered, took⟩ := BlockSink.offer_took isOpen candidate
  refine ⟨after, ?_, took⟩
  rw [sinkOf_write, GuardedSink.write_of_unlimited]
  simp only [offered]
  rfl

theorem cursorOf_next_nil (world : Rehearsal (List Json))
    (held : world.cursor = []) :
    (cursorOf .records).next world =
      (.ok none, { world with cursor := [], pulls := world.pulls + 1 }) := by
  simp only [cursorOf, held]
  rfl

theorem cursorOf_next_cons (world : Rehearsal (List Json)) {record : Json}
    {rest : List Json} (held : world.cursor = record :: rest) :
    (cursorOf .records).next world =
      (.ok (some record),
        { world with cursor := rest, pulls := world.pulls + 1 }) := by
  simp only [cursorOf, held]
  rfl

theorem records_keepsBound (wantedAt : Nat → Bool) :
    Stream.KeepsBound (cursorOf .records) sinkOf (statusAt wantedAt) where
  check checked := by
    cases checked
    exact Nat.le_refl _
  pull {world record after} pulled := by
    rcases held : world.cursor with _ | ⟨first, rest⟩
    · rw [cursorOf_next_nil world held] at pulled
      cases pulled
    · rw [cursorOf_next_cons world held] at pulled
      cases pulled
      simp only [cursorOf, held]
      exact Nat.lt_succ_self rest.length
  write offered := by
    rw [sinkOf_pure] at offered
    cases offered
    exact Nat.le_refl _

/-- A round that finds the query wanted passes a record at hand on. -/
theorem Free.round (projector : Projector) {record : Json} {rest : List Json}
    {status : Status (Rehearsal (List Json))} (free : world.Free)
    (checked : status.isRunning world =
      (true, { world with checks := world.checks + 1 }))
    (held : world.cursor = record :: rest) (stats : StreamStats) :
    ∃ after,
      Stream.round (cursorOf .records) projector sinkOf status stats world =
        (.again (stats.add (.ofNat (projector.rows [record]).length)), after) ∧
      Passed projector world [record] after ∧
      after.checks = world.checks + 1 := by
  let middle : Rehearsal (List Json) :=
    { world with
      cursor := rest
      pulls := world.pulls + 1
      checks := world.checks + 1 }
  have middleFree : middle.Free :=
    ⟨free.unlimited, free.isOpen, free.wanted⟩
  obtain ⟨inner, written, took⟩ :=
    middleFree.written (projector.candidate? record)
  have pulled := cursorOf_next_cons
    { world with checks := world.checks + 1 } held
  refine ⟨{ middle with sink := ⟨inner, {}⟩ }, ?_,
    ⟨held, took, rfl, took.isOpen, free.wanted⟩, rfl⟩
  rw [Stream.round_apply, checked]
  simp only [pulled]
  rw [written]
  cases candidate : projector.candidate? record <;>
    simp [Projector.rows, candidate]

/-- As long as the query is found wanted, rounds pass on the records at
hand. -/
theorem Free.rounds (projector : Projector) {rest : List Json}
    {status : Status (Rehearsal (List Json))} (free : world.Free)
    (records : List Json) (held : world.cursor = records ++ rest)
    (checked : ∀ later : Rehearsal (List Json), later.Free →
      world.checks ≤ later.checks →
      later.checks < world.checks + records.length →
        status.isRunning later =
          (true, { later with checks := later.checks + 1 }))
    (pulled written limit : Nat) :
    ∃ after,
      Stream.rounds (cursorOf .records) projector sinkOf status
          (records.length + limit) (.counting pulled written false) world =
        Stream.rounds (cursorOf .records) projector sinkOf status limit
          (.counting (pulled + records.length)
            (written + (projector.rows records).length) false) after ∧
      Passed projector world records after ∧
      after.checks = world.checks + records.length := by
  induction records generalizing world pulled written with
  | nil =>
      rw [List.length_nil, Nat.zero_add]
      exact ⟨world, rfl, .nil free, rfl⟩
  | cons record records ih =>
      have now := checked world free (Nat.le_refl _) (by simp)
      obtain ⟨middle, first, passed, counted⟩ :=
        free.round projector now held (.counting pulled written false)
      have left : middle.cursor = records ++ rest := by
        have whole := passed.pulled
        rw [held] at whole
        simpa using whole.symm
      have later : ∀ later : Rehearsal (List Json), later.Free →
          middle.checks ≤ later.checks →
          later.checks < middle.checks + records.length →
            status.isRunning later =
              (true, { later with checks := later.checks + 1 }) := by
        intro later laterFree notBefore notAfter
        apply checked later laterFree
        · omega
        · rw [List.length_cons]
          omega
      obtain ⟨after, others, behind, total⟩ := ih passed.free left later
        (pulled + 1) (written + (projector.rows [record]).length)
      refine ⟨after, ?_, passed.append behind, ?_⟩
      · have rowsEq := projector.rows_cons record records
        rw [List.length_cons, Nat.add_right_comm, Stream.rounds_succ, first,
          StreamStats.counting_add]
        simp only [others]
        rw [rowsEq, List.length_append, Nat.add_assoc, Nat.add_assoc,
          Nat.add_comm 1]
      · rw [total, counted, List.length_cons]
        omega

/-- A run over records at hand passes them all on and ends with them. -/
theorem Free.run (projector : Projector) (free : world.Free) :
    ∃ after,
      Stream.run (cursorOf .records) projector sinkOf status world =
        (some (.ok (.counting world.cursor.length
          (projector.rows world.cursor).length false)), after) ∧
      world.sink.inner.Took (projector.candidates world.cursor)
        after.sink.inner := by
  obtain ⟨last, others, passed, _⟩ := free.rounds projector world.cursor
    (List.append_nil _).symm (fun later laterFree _ _ => laterFree.checked)
    0 0 1
  have left : last.cursor = [] := by
    simpa using passed.pulled
  have pulled := cursorOf_next_nil
    { last with checks := last.checks + 1 } left
  refine ⟨{ last with
    cursor := []
    checks := last.checks + 1
    pulls := last.pulls + 1 }, ?_, passed.took⟩
  have bound : (cursorOf .records).bound world = world.cursor.length := rfl
  rw [Stream.run_apply, bound, ← StreamStats.counting_zero, others,
    Stream.rounds_succ, Stream.round_apply, passed.free.checked]
  simp only [pulled, Nat.zero_add]

end Rehearsal

end GraphTable
