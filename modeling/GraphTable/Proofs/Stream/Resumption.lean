import Mathlib
import GraphTable.Proofs.Stream.Cutoff
import GraphTable.Proofs.Stream.Feeding

/-!
# Interrupted and resumed runs

A run that is cancelled at some check leaves a cursor and a block sink with which
a later run can go on.  However often this happens, the sink does not show it:
once the end of the records is found, it is the sink that one run would have
left that nothing interrupts.
-/

namespace GraphTable

variable {τ : Type}

/-- The status of a query that is always wanted. -/
def Status.always : Status τ where
  isRunning rest := (true, rest)

/-- What runs did together.  They were cancelled together if each of them was. -/
def StreamStats.total (parts : List StreamStats) : StreamStats where
  pulled := (parts.map pulled).sum
  written := (parts.map written).sum
  cancelled := parts.all cancelled

/-- Numbers that the counters of runs add up to, where no counter started
again. -/
structure StreamStats.AddUp (parts : List StreamStats)
    (pulled written : Nat) : Prop where
  pulled_eq : (parts.map fun stats => stats.pulled.toNat).sum = pulled
  written_eq : (parts.map fun stats => stats.written.toNat).sum = written

namespace Stream

/-- A turn that feeds a block sink, to which the status has no access. -/
def Turn.feeding (projector : Projector) (status : Status τ) :
    Turn (BlockSink × τ) where
  projector := projector
  sink := BlockSink.reacting fun _ rest => rest
  status := status.beside

variable {projector : Projector} {sink middle after : BlockSink}
  {records between left first second : List Json} {stats : StreamStats}
  {parts : List StreamStats}

/-- Nothing was fed by no run. -/
theorem Fed.none (projector : Projector) (sink : BlockSink)
    (records : List Json) :
    Fed projector sink records (.total []) records sink [] :=
  ⟨rfl, rfl, rfl, rfl, nofun⟩

/-- What one run feeds and what others feed behind it. -/
theorem Fed.cons (before : Fed projector sink records stats between middle first)
    (behind : Fed projector middle between (.total parts) left after second) :
    Fed projector sink records (.total (stats :: parts)) left after
      (first ++ second) where
  records_eq := by
    rw [before.records_eq, behind.records_eq, List.append_assoc]
  after_eq := by
    rw [behind.after_eq, before.after_eq, BlockSink.offerAll_append]
  pulled_eq := by
    have later := behind.pulled_eq
    simp only [StreamStats.total, List.map_cons, List.sum_cons,
      List.length_append, before.pulled_eq, UInt64.ofNat_add] at later ⊢
    rw [later]
  written_eq := by
    have later := behind.written_eq
    simp only [StreamStats.total, List.map_cons, List.sum_cons,
      Projector.rows_append, List.length_append, before.written_eq,
      UInt64.ofNat_add] at later ⊢
    rw [later]
  whole := by
    intro uncancelled
    rw [StreamStats.total, List.all_cons, Bool.and_eq_false_iff] at uncancelled
    rcases uncancelled with firstWhole | othersWhole
    · -- The first run has found the end, and nothing was left for the others.
      have split := behind.records_eq
      rw [before.whole firstWhole] at split
      exact (List.append_eq_nil_iff.mp split.symm).2
    · exact behind.whole othersWhole

/-- The counters of runs add up to what was fed, as long as one counter could
hold it. -/
theorem Fed.addUp_cons
    (before : Fed projector sink records stats between middle first)
    (fits : (first ++ second).length < UInt64.size)
    (behind : StreamStats.AddUp parts second.length
      (projector.rows second).length) :
    StreamStats.AddUp (stats :: parts) (first ++ second).length
      (projector.rows (first ++ second)).length := by
  rw [List.length_append] at fits
  have fewRows : (projector.rows first).length ≤ first.length :=
    List.length_filterMap_le _ first
  have pulledFits : first.length < UInt64.size := by omega
  have writtenFits : (projector.rows first).length < UInt64.size := by omega
  obtain ⟨pulled, written⟩ :=
    StreamStats.counting_exact stats.cancelled pulledFits writtenFits
  rw [← before.stats_eq] at pulled written
  constructor
  · rw [List.map_cons, List.sum_cons, pulled, behind.pulled_eq,
      List.length_append]
  · rw [List.map_cons, List.sum_cons, written, behind.written_eq,
      Projector.rows_append, List.length_append]

theorem Turn.feeding_fed (projector : Projector)
    (isOpen : sink.isClosed = false) (status : Status τ) (records : List Json)
    (rest : τ) :
    ∃ stats left after taken,
      Stream.Fed projector sink records stats left after.1 taken ∧
      ((Turn.feeding projector status).run (records, sink, rest)).1.result =
        some (.ok stats) ∧
      ((Turn.feeding projector status).run (records, sink, rest)).2 =
        (left, after) := by
  obtain ⟨stats, left, after, feeds, ran⟩ := run_feeds isOpen projector
    (fun _ rest => rest) status records rest
  obtain ⟨taken, fed⟩ := feeds.exists_fed
  exact ⟨stats, left, after, taken, fed, congrArg Prod.fst ran,
    congrArg Prod.snd ran⟩

theorem relay_cons {σ : Type} (turn : Turn σ) (turns : List (Turn σ))
    (world : List Json × σ) :
    relay (turn :: turns) world =
      ((turn.run world).1 :: (relay turns (turn.run world).2).1,
        (relay turns (turn.run world).2).2) :=
  rfl

/-- Runs that take turns on one cursor and one open block sink. -/
theorem relay_fed (projector : Projector) (isOpen : sink.isClosed = false)
    (statuses : List (Status τ)) (records : List Json) (rest : τ) :
    ∃ parts left after taken,
      Fed projector sink records (.total parts) left after.1 taken ∧
      (taken.length < UInt64.size →
        StreamStats.AddUp parts taken.length (projector.rows taken).length) ∧
      (relay (statuses.map (Turn.feeding projector))
        (records, sink, rest)).1.map Report.result =
          parts.map (fun stats => some (.ok stats)) ∧
      (relay (statuses.map (Turn.feeding projector))
        (records, sink, rest)).2 = (left, after) := by
  induction statuses generalizing sink records rest with
  | nil =>
      exact ⟨[], records, (sink, rest), [], .none _ _ _, fun _ => ⟨rfl, rfl⟩,
        rfl, rfl⟩
  | cons status statuses ih =>
      obtain ⟨stats, between, ⟨middle, checked⟩, first, fed, result, world⟩ :=
        Turn.feeding_fed projector isOpen status records rest
      obtain ⟨parts, left, after, second, others, addUp, results, last⟩ :=
        ih (fed.took isOpen).isOpen between checked
      refine ⟨stats :: parts, left, after, first ++ second, fed.cons others,
        fun fits => fed.addUp_cons fits (addUp ?_), ?_, ?_⟩
      · rw [List.length_append] at fits
        omega
      · rw [List.map_cons, relay_cons, List.map_cons, result, world, results,
          List.map_cons]
      · rw [List.map_cons, relay_cons, world, last]

theorem Feeds.uncancelled {react : BlockSink → τ → τ}
    {world after : BlockSink × τ}
    (feeds : Feeds projector react .always records world stats left after) :
    stats.cancelled = false := by
  induction feeds with
  | cancelled refused => cases refused
  | exhausted wanted => rfl
  | fed wanted offered behind ih => exact ih

/-- A run that nothing interrupts feeds all records. -/
theorem Turn.feeding_always (projector : Projector)
    (isOpen : sink.isClosed = false) (records : List Json) (rest : τ) :
    ((Turn.feeding projector .always).run (records, sink, rest)).1.result =
        some (.ok (.counting records.length (projector.rows records).length
          false)) ∧
      ((Turn.feeding projector .always).run (records, sink, rest)).2.2.1 =
        sink.offerAll projector records := by
  obtain ⟨stats, left, after, feeds, ran⟩ := run_feeds isOpen projector
    (fun _ rest => rest) .always records rest
  obtain ⟨taken, fed⟩ := feeds.exists_fed
  obtain ⟨rfl, statsEq⟩ := fed.eq_of_uncancelled feeds.uncancelled
  refine ⟨?_, ?_⟩
  · exact (congrArg Prod.fst ran).trans (by rw [statsEq])
  · exact (congrArg (fun ended => ended.2.2.1) ran).trans fed.after_eq

/-- Runs that take turns on one cursor and one open block sink, each with a
status of its own, all come to statistics.  Once one of them was not cancelled,
the records are used up, the sink is in every part the one that a single run
leaves that nothing interrupts, and the statistics of the runs add up to those of
the single run, in words, and in numbers too if a word can count the records. -/
theorem interruptions_leave_no_trace (projector : Projector)
    (isOpen : sink.isClosed = false) (statuses : List (Status τ))
    (records : List Json) (rest : τ) :
    let turns := statuses.map (Turn.feeding projector)
    let (reports, left, after, _) := relay turns (records, sink, rest)
    let (single, _, alone, _) :=
      (Turn.feeding projector .always).run (records, sink, rest)
    ∃ (parts : List StreamStats) (whole : StreamStats),
      reports.map Report.result = parts.map (fun stats => some (.ok stats)) ∧
      single.result = some (.ok whole) ∧
      whole =
        .counting records.length (projector.rows records).length false ∧
      ((∃ stats ∈ parts, stats.cancelled = false) →
        left = [] ∧ after = alone ∧ StreamStats.total parts = whole ∧
          (records.length < UInt64.size →
            StreamStats.AddUp parts records.length
              (projector.rows records).length)) := by
  obtain ⟨parts, left, after, taken, fed, addUp, results, world⟩ :=
    relay_fed projector isOpen statuses records rest
  obtain ⟨single, alone⟩ :=
    Turn.feeding_always projector isOpen records rest
  refine ⟨parts, _, results, single, rfl, ?_⟩
  rintro ⟨stats, mem, uncancelled⟩
  have oneWhole : (StreamStats.total parts).cancelled = false :=
    List.all_eq_false.mpr ⟨stats, mem, by simp [uncancelled]⟩
  obtain ⟨rfl, statsEq⟩ := fed.eq_of_uncancelled oneWhole
  refine ⟨?_, ?_, statsEq, addUp⟩
  · exact (congrArg Prod.fst world).trans (fed.whole oneWhole)
  · exact (congrArg (fun ended => ended.2.1) world).trans
      (fed.after_eq.trans alone.symm)

/-- A status whose first answers are given beforehand. -/
def scriptedStatus : Status (List Bool) where
  isRunning
    | [] => (true, [])
    | answer :: answers => (answer, answers)

/-- A run is cancelled where a block has just been sealed, the next one before
its first record, and the third one finds the end. -/
theorem two_interruptions_leave_no_trace :
    let sink := ((BlockSink.new 2).offer (some (Rehearsal.idRow 0))).2
    let records := [Json.ofNat 1, .null, Json.ofNat 3]
    let answers := [true, false, false]
    let turns := [scriptedStatus, scriptedStatus, scriptedStatus].map
      (Turn.feeding Rehearsal.idProjector)
    let relayed := relay turns (records, sink, answers)
    let alone :=
      (Turn.feeding Rehearsal.idProjector .always).run (records, sink, answers)
    relayed.1.map Report.result =
        [some (.ok ⟨1, 1, true⟩), some (.ok ⟨0, 0, true⟩),
          some (.ok ⟨2, 1, false⟩)] ∧
      relayed.2.2.1 = alone.2.2.1 ∧ alone.2.2.1.sealedBlocks.length = 1 := by
  intro sink records answers turns relayed alone
  have isOpen : sink.isClosed = false := by
    decide
  have ran : relayed.1.map Report.result =
      [some (.ok ⟨1, 1, true⟩), some (.ok ⟨0, 0, true⟩),
        some (.ok ⟨2, 1, false⟩)] := by
    cbv
  have oneSealed : alone.2.2.1.sealedBlocks.length = 1 := by
    cbv
  obtain ⟨parts, whole, results, -, -, alike⟩ :=
    interruptions_leave_no_trace Rehearsal.idProjector isOpen
      [scriptedStatus, scriptedStatus, scriptedStatus] records answers
  have last : (⟨2, 1, false⟩ : StreamStats) ∈ parts := by
    have mem : some (.ok ⟨2, 1, false⟩) ∈
        parts.map fun stats => (some (.ok stats) :
          Option (Except StreamError StreamStats)) := by
      rw [results.symm.trans ran]
      simp
    obtain ⟨stats, isPart, same⟩ := List.mem_map.mp mem
    cases same
    exact isPart
  exact ⟨ran, (alike ⟨_, last, rfl⟩).2.1, oneSealed⟩

end Stream

end GraphTable
