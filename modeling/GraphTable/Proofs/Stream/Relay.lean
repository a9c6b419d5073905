import GraphTable.Proofs.Stream.Course
import GraphTable.Store.Puller

/-!
# Streams that take turns on one cursor

Several runs, each with a projector, a sink and a status of its own, take turns
on one cursor over records that are at hand.  However a run ends, the next one
goes on where it left off: together they offer every record at most once, in
order, and what was not offered is still there.
-/

namespace GraphTable

variable {κ σ : Type}

/-- A cursor whose states only it can change, beside the rest of the world. -/
def Puller.cursor (puller : Puller κ) : Cursor (κ × σ) where
  next world :=
    let (answer, state) := puller.next world.1
    (answer, (state, world.2))
  bound world := puller.bound world.1

/-- A sink that acts on the rest of the world. -/
def Sink.beside (sink : Sink σ) : Sink (κ × σ) where
  write produce world :=
    let inner : StateM σ (Option Row) := fun rest =>
      let (row, after) := produce (world.1, rest)
      (row, after.2)
    let (answer, rest) := sink.write inner world.2
    (answer, (world.1, rest))

def Status.beside (status : Status σ) : Status (κ × σ) where
  isRunning world :=
    let (running, rest) := status.isRunning world.2
    (running, (world.1, rest))

theorem Stream.keepsBound_beside {puller : Puller κ}
    (falls : ∀ {state record after},
      puller.next state = (.ok (some record), after) →
        puller.bound after < puller.bound state)
    (sink : Sink σ) (status : Status σ) :
    KeepsBound puller.cursor sink.beside status.beside where
  check := by
    rintro world running after ⟨⟩
    exact Nat.le_refl _
  pull := by
    intro world record after pulled
    rcases inner : puller.next world.1 with ⟨answer, state⟩
    simp only [Puller.cursor, inner] at pulled
    cases pulled
    exact falls inner
  write := by
    rintro candidate world answer after ⟨⟩
    exact Nat.le_refl _

namespace Stream

/-- A record that was pulled and then offered: the candidate that stood for it,
and what the sink said. -/
structure Offer where
  record : Json
  candidate : Option Row
  answer : Except SinkError UInt64

/-- The records that are pulled. -/
def pulls : List Call → List Json
  | .pull (.ok (some record)) :: rest => record :: pulls rest
  | _ :: rest => pulls rest
  | [] => []

def writes : List Call → List (Option Row × Except SinkError UInt64)
  | .write candidate answer :: rest => (candidate, answer) :: writes rest
  | _ :: rest => writes rest
  | [] => []

/-- The records that are offered: a write is about the record of the pull right
before it. -/
def offers : List Call → List Offer
  | .pull (.ok (some record)) :: .write candidate answer :: rest =>
      ⟨record, candidate, answer⟩ :: offers rest
  | _ :: rest => offers rest
  | [] => []

theorem pulls_append (first second : List Call) :
    pulls (first ++ second) = pulls first ++ pulls second := by
  fun_induction pulls first with
  | case1 record rest ih => simp [pulls, ih]
  | case2 call rest other ih => simp [pulls, ih]
  | case3 => rfl

/-- The offer of a round after which a run goes on. -/
def roundOffer (projector : Projector) (round : Json × UInt64) : Offer :=
  ⟨round.1, projector.candidate? round.1, .ok round.2⟩

def Ending.offers (projector : Projector) : Ending → List Offer
  | .refused record error =>
      [⟨record, projector.candidate? record, .error error⟩]
  | _ => []

def Course.offers (projector : Projector) (course : Course) : List Offer :=
  course.rounds.map (roundOffer projector) ++ course.ending.offers projector

variable (projector : Projector) (course : Course)

theorem offers_calls :
    Stream.offers (course.calls projector) = course.offers projector := by
  obtain ⟨rounds, ending⟩ := course
  induction rounds with
  | nil => cases ending <;> rfl
  | cons round rounds ih =>
      simpa [Course.calls, Course.offers, roundCalls, roundOffer, Stream.offers]
        using ih

theorem pulls_calls :
    pulls (course.calls projector) =
      (course.offers projector).map Offer.record := by
  obtain ⟨rounds, ending⟩ := course
  induction rounds with
  | nil => cases ending <;> rfl
  | cons round rounds ih =>
      simpa [Course.calls, Course.offers, roundCalls, roundOffer, pulls] using ih

theorem writes_calls :
    writes (course.calls projector) =
      (course.offers projector).map fun offer =>
        (offer.candidate, offer.answer) := by
  obtain ⟨rounds, ending⟩ := course
  induction rounds with
  | nil => cases ending <;> rfl
  | cons round rounds ih =>
      simpa [Course.calls, Course.offers, roundCalls, roundOffer, writes] using ih

/-- Every record was pulled or is still at hand, in this order, no pull has
failed, and none is at hand once a pull has found the end. -/
structure Conserves (records : List Json) (traced : Traced (List Json × σ)) :
    Prop where
  split : pulls traced.calls ++ traced.world.1 = records
  sound : ∀ error, Call.pull (.error error) ∉ traced.calls
  exhausted : Call.pull (.ok none) ∈ traced.calls → traced.world.1 = []

section Conserves

variable {records rest : List Json} {record : Json} {world after : σ}
  {noted : List Call}

/-- A call that is no pull takes no record. -/
theorem Conserves.quiet {call : Call}
    (conserves : Conserves records ⟨(rest, world), noted⟩)
    (noPull : ∀ answer, call ≠ .pull answer) :
    Conserves records ⟨(rest, after), noted ++ [call]⟩ where
  split := by
    cases call with
    | pull answer => exact absurd rfl (noPull answer)
    | check running => simpa [pulls_append, pulls] using conserves.split
    | write candidate answer =>
        simpa [pulls_append, pulls] using conserves.split
  sound := by
    intro error mem
    rcases List.mem_append.mp mem with earlier | last
    · exact conserves.sound error earlier
    · exact noPull _ (List.mem_singleton.mp last).symm
  exhausted := by
    intro mem
    rcases List.mem_append.mp mem with earlier | last
    · exact conserves.exhausted earlier
    · exact absurd (List.mem_singleton.mp last).symm (noPull _)

theorem Conserves.end_found
    (conserves : Conserves records ⟨([], world), noted⟩) :
    Conserves records ⟨([], world), noted ++ [.pull (.ok none)]⟩ where
  split := by simpa [pulls_append, pulls] using conserves.split
  sound := by simpa using conserves.sound
  exhausted := fun _ => rfl

theorem Conserves.record_pulled
    (conserves : Conserves records ⟨(record :: rest, world), noted⟩) :
    Conserves records
      ⟨(rest, world), noted ++ [.pull (.ok (some record))]⟩ where
  split := by simpa [pulls_append, pulls] using conserves.split
  sound := by simpa using conserves.sound
  exhausted := by
    intro mem
    rcases List.mem_append.mp mem with earlier | last
    · cases conserves.exhausted earlier
    · cases List.mem_singleton.mp last

end Conserves

theorem keeps_conserves (records : List Json) (sink : Sink σ)
    (status : Status σ) :
    Keeps (Conserves records) Puller.records.cursor.traced sink.beside.traced
      status.beside.traced where
  check := by
    rintro world running after conserves ⟨⟩
    exact conserves.quiet (by simp)
  pull := by
    rintro ⟨⟨_ | ⟨record, rest⟩, world⟩, noted⟩ answer after conserves ⟨⟩
    · exact conserves.end_found
    · exact conserves.record_pulled
  write := by
    rintro candidate world answer after conserves ⟨⟩
    exact conserves.quiet (by simp)

/-- What a run brings along when its turn comes. -/
structure Turn (σ : Type) where
  projector : Projector
  sink : Sink σ
  status : Status σ

/-- What is known of a run afterwards, with the records that it left at hand. -/
structure Report where
  projector : Projector
  result : Option (Except StreamError StreamStats)
  calls : List Call
  left : List Json

def Report.offers (report : Report) : List Offer :=
  Stream.offers report.calls

def Report.records (report : Report) : List Json :=
  report.offers.map Offer.record

def Turn.run (turn : Turn σ) (world : List Json × σ) :
    Report × (List Json × σ) :=
  let sink := turn.sink.beside
  let status := turn.status.beside
  let (result, after) :=
    Stream.run Puller.records.cursor turn.projector sink status world
  (⟨turn.projector, result,
    Stream.calls Puller.records.cursor turn.projector sink status world,
    after.1⟩, after)

/-- Let runs take turns on the records at hand. -/
def relay : List (Turn σ) → List Json × σ → List Report × (List Json × σ)
  | [], world => ([], world)
  | turn :: turns, world =>
      let (report, world) := turn.run world
      let (reports, world) := relay turns world
      (report :: reports, world)

/-- What is written is offered, and what is offered is the projection of the
record that was just pulled. -/
structure Report.Faithful (report : Report) : Prop where
  writes_eq : writes report.calls =
    report.offers.map fun offer => (offer.candidate, offer.answer)
  candidate_eq : ∀ offer ∈ report.offers,
    offer.candidate = report.projector.candidate? offer.record

/-- The run was stopped by a check or found the end, and only the end counts as
not cancelled.  Its statistics are those of its calls to the sink, as far as
words can tell them. -/
structure Report.Completed (report : Report) (stats : StreamStats)
    (counts : List UInt64) : Prop where
  result_eq : report.result = some (.ok stats)
  answers_eq : (writes report.calls).map Prod.snd = counts.map .ok
  pulled_eq : stats.pulled.toNat = (writes report.calls).length % UInt64.size
  written_eq :
    stats.written.toNat = (counts.map UInt64.toNat).sum % UInt64.size
  last_eq : report.calls.getLast? =
    some (if stats.cancelled then .check false else .pull (.ok none))
  left_eq : stats.cancelled = false → report.left = []

/-- The sink took some records and refused the one after them. -/
def Report.Refused (report : Report) (taken : List Json) (refused : Json) :
    Prop :=
  ∃ (error : SinkError) (counts : List UInt64),
    report.result = some (.error (.sink error)) ∧
      report.records = taken ++ [refused] ∧
      (writes report.calls).map Prod.snd = counts.map .ok ++ [.error error]

/-- The report of a course that left some records. -/
def Course.report (projector : Projector) (course : Course)
    (left : List Json) : Report :=
  ⟨projector, some (course.result {}), course.calls projector, left⟩

variable (left : List Json)

theorem Course.report_faithful : (course.report projector left).Faithful where
  writes_eq := by
    rw [Report.offers, Course.report, offers_calls, writes_calls]
  candidate_eq := by
    intro offer member
    rw [Report.offers, Course.report, offers_calls, Course.offers,
      List.mem_append] at member
    rcases member with inRound | atEnd
    · obtain ⟨round, _, rfl⟩ := List.mem_map.mp inRound
      rfl
    · cases ending : course.ending with
      | refused record error =>
          rw [ending, Ending.offers, List.mem_singleton] at atEnd
          subst atEnd
          rfl
      | _ => simp [ending, Ending.offers] at atEnd

theorem Course.map_answer_writes :
    (writes (course.calls projector)).map Prod.snd =
      (course.rounds.map Prod.snd).map .ok ++
        (course.ending.offers projector).map Offer.answer := by
  simp [writes_calls, Course.offers, roundOffer, Function.comp_def]

theorem Course.length_writes (silent : course.ending.offers projector = []) :
    (writes (course.calls projector)).length = course.rounds.length := by
  rw [writes_calls, Course.offers, silent, List.append_nil, List.length_map,
    List.length_map]

theorem Course.stats_pulled :
    (course.stats {}).pulled.toNat = course.rounds.length % UInt64.size := by
  rw [course.stats_start, StreamStats.counting, UInt64.toNat_ofNat']

theorem Course.stats_written :
    (course.stats {}).written.toNat =
      ((course.rounds.map Prod.snd).map UInt64.toNat).sum % UInt64.size := by
  rw [course.stats_start, StreamStats.counting, UInt64.toNat_ofNat',
    List.map_map]
  rfl

/-- A run that was not cut short by an error was stopped or found the end. -/
theorem Course.report_completed {stats : StreamStats}
    (stop : course.ending = .cancelled ∧
        stats = { course.stats {} with cancelled := true } ∨
      course.ending = .exhausted ∧ stats = course.stats {} ∧ left = []) :
    (course.report projector left).Completed stats
      (course.rounds.map Prod.snd) := by
  have uncancelled : (course.stats {}).cancelled = false := by
    rw [course.stats_start, StreamStats.counting]
  have silent : course.ending.offers projector = [] := by
    rcases stop with ⟨ending, -⟩ | ⟨ending, -⟩ <;> rw [ending] <;> rfl
  have answers := course.map_answer_writes projector
  rw [silent, List.map_nil, List.append_nil] at answers
  have pulled := course.stats_pulled
  rw [← course.length_writes projector silent] at pulled
  rcases stop with ⟨ending, rfl⟩ | ⟨ending, rfl, rfl⟩
  · refine ⟨?_, answers, pulled, course.stats_written, ?_, by simp⟩
    · rw [Course.report, Course.result, ending]
      rfl
    · simp [Course.report, Course.calls, ending, Ending.calls]
  · refine ⟨?_, answers, pulled, course.stats_written, ?_, fun _ => rfl⟩
    · rw [Course.report, Course.result, ending]
      rfl
    · simp [Course.report, Course.calls, ending, Ending.calls, uncancelled]

/-- A run whose cursor did not fail was completed, or its last offer was
refused. -/
theorem Course.report_ended
    (sound : ∀ error, course.ending ≠ .broken error)
    (exhausted : course.ending = .exhausted → left = []) :
    (∃ stats counts, (course.report projector left).Completed stats counts) ∨
      ∃ taken refused,
        (course.report projector left).Refused taken refused := by
  cases ending : course.ending with
  | cancelled =>
      exact .inl ⟨_, _, course.report_completed projector left
        (.inl ⟨ending, rfl⟩)⟩
  | broken error => exact absurd ending (sound error)
  | exhausted =>
      exact .inl ⟨_, _, course.report_completed projector left
        (.inr ⟨ending, rfl, exhausted ending⟩)⟩
  | refused record error =>
      refine .inr ⟨course.rounds.map Prod.fst, record, error,
        course.rounds.map Prod.snd, ?_, ?_, ?_⟩
      · rw [Course.report, Course.result, ending]
        rfl
      · simp [Report.records, Report.offers, Course.report, offers_calls,
          Course.offers, ending, Ending.offers, roundOffer, Function.comp_def]
      · rw [Course.report, course.map_answer_writes, ending]
        rfl

/-- A turn follows a course whose cursor never fails and finds the end only
where nothing is left, and the records that it did not offer are left.  The
course comes from the run that notes its calls, of which alone the invariant can
speak. -/
theorem Turn.run_course (turn : Turn σ) (records : List Json) (world : σ) :
    ∃ course : Course, ∃ left : List Json,
      (∀ error, course.ending ≠ .broken error) ∧
      (course.ending = .exhausted → left = []) ∧
      (turn.run (records, world)).1 = course.report turn.projector left ∧
      (turn.run (records, world)).2.1 = left ∧
      (course.report turn.projector left).records ++ left = records := by
  have falls : ∀ {state record after},
      Puller.records.next state = (.ok (some record), after) →
        Puller.records.bound after < Puller.records.bound state := by
    rintro (_ | ⟨first, rest⟩) record after pulled
    · cases pulled
    · cases pulled
      exact Nat.lt_succ_self _
  have bounded := keepsBound_beside falls turn.sink turn.status
  obtain ⟨result, finished⟩ := Option.isSome_iff_exists.mp
    (bounded.run_isSome turn.projector (records, world))
  have ended : Stream.run Puller.records.cursor turn.projector turn.sink.beside
      turn.status.beside (records, world) =
        (some result, (turn.run (records, world)).2) :=
    Prod.ext finished rfl
  obtain ⟨course, same, made, behind⟩ := Stream.run_course ended
  have conserved : Conserves records
      (Stream.run Puller.records.cursor.traced turn.projector
        turn.sink.beside.traced turn.status.beside.traced
        ⟨(records, world), []⟩).2 :=
    (keeps_conserves records turn.sink turn.status).run
      ⟨by simp [pulls], by simp, by simp⟩
  obtain ⟨split, sound, exhausted⟩ := conserved
  change pulls (calls _ _ _ _ _) ++ _ = _ at split
  change ∀ error, _ ∉ calls _ _ _ _ _ at sound
  change _ ∈ calls _ _ _ _ _ → _ at exhausted
  rw [made, behind] at split exhausted
  rw [made] at sound
  refine ⟨course, (turn.run (records, world)).2.1, ?_, ?_, ?_, rfl, ?_⟩
  · intro error broken
    apply sound error
    simp [Course.calls, broken, Ending.calls]
  · intro ending
    apply exhausted
    simp [Course.calls, ending, Ending.calls]
  · rw [Course.report, ← same, ← made, ← finished]
    rfl
  · rw [Report.records, Report.offers, Course.report, offers_calls,
      ← pulls_calls]
    exact split

/-- What all runs offer together, and what is left, are the records at hand. -/
theorem relay_records (turns : List (Turn σ)) (world : List Json × σ) :
    (relay turns world).1.flatMap Report.records ++ (relay turns world).2.1 =
      world.1 := by
  induction turns generalizing world with
  | nil => rfl
  | cons turn turns ih =>
      obtain ⟨course, left, _, _, reported, rest, split⟩ :=
        turn.run_course world.1 world.2
      rw [← reported, ← rest] at split
      rw [relay, List.flatMap_cons, List.append_assoc, ih, split]

/-- What a run leaves at hand is what it and the runs before it did not
offer. -/
theorem relay_left (turns : List (Turn σ)) (world : List Json × σ)
    {before after : List Report} {report : Report}
    (together : (relay turns world).1 = before ++ report :: after) :
    before.flatMap Report.records ++ report.records ++ report.left =
      world.1 := by
  induction turns generalizing world before with
  | nil => simp [relay] at together
  | cons turn turns ih =>
      obtain ⟨course, left, _, _, reported, rest, split⟩ :=
        turn.run_course world.1 world.2
      rw [← reported] at split
      rw [relay] at together
      cases before with
      | nil =>
          obtain ⟨rfl, -⟩ := List.cons.inj together
          rw [List.flatMap_nil, List.nil_append, ← split]
          exact congrArg _ rest
      | cons first before =>
          obtain ⟨rfl, others⟩ := List.cons.inj together
          rw [List.flatMap_cons, List.append_assoc, List.append_assoc,
            ← List.append_assoc (before.flatMap _), ih _ others, rest, split]

theorem relay_reports (turns : List (Turn σ)) (world : List Json × σ) :
    (relay turns world).1.map Report.projector = turns.map Turn.projector ∧
      ∀ report ∈ (relay turns world).1, report.Faithful ∧
        ((∃ stats counts, report.Completed stats counts) ∨
          ∃ taken refused, report.Refused taken refused) := by
  induction turns generalizing world with
  | nil => exact ⟨rfl, by simp [relay]⟩
  | cons turn turns ih =>
      obtain ⟨course, left, sound, exhausted, reported, _⟩ :=
        turn.run_course world.1 world.2
      obtain ⟨projectors, others⟩ := ih (turn.run world).2
      rw [relay, List.map_cons, List.map_cons, projectors]
      refine ⟨rfl, fun report member => ?_⟩
      rcases List.mem_cons.mp member with rfl | behind
      · rw [reported]
        exact ⟨course.report_faithful _ _,
          course.report_ended _ _ sound exhausted⟩
      · exact others report behind

/-- Runs that take turns on one cursor offer a prefix of its records between
them, each once and in order, and leave the rest, and so does each of them.
Every run ends by itself, with the statistics of its calls or with the refusal
of its last offer; what comes behind the refused record is all that later runs
can offer. -/
theorem relay_delivers_once (turns : List (Turn σ)) (records : List Json)
    (world : σ) :
    let (reports, left) := relay turns (records, world)
    reports.map Report.projector = turns.map Turn.projector ∧
      reports.flatMap Report.records ++ left.1 = records ∧
      (∀ report ∈ reports, report.Faithful ∧
        ((∃ stats counts, report.Completed stats counts) ∨
          ∃ taken refused, report.Refused taken refused)) ∧
      (∀ before report after, reports = before ++ report :: after →
        before.flatMap Report.records ++ report.records ++ report.left =
          records) ∧
      ∀ before report after taken refused,
        reports = before ++ report :: after → report.Refused taken refused →
          records = before.flatMap Report.records ++ taken ++
            refused :: (after.flatMap Report.records ++ left.1) := by
  have split := relay_records turns (records, world)
  have sound := relay_reports turns (records, world)
  refine ⟨sound.1, split, sound.2,
    fun _ _ _ => relay_left turns (records, world), ?_⟩
  rintro before report after taken refused together
    ⟨error, counts, _, offered, _⟩
  rw [together, List.flatMap_append, List.flatMap_cons, offered] at split
  simpa using split.symm

end Stream

end GraphTable
