import Mathlib
import GraphTable.Proofs.Stream.Round

/-!
# Courses of streams

A stream is watched through the calls that it makes to its cursor, its sink and
its status.  The calls of every run that comes to a result are those of a
`Course`: rounds that wrote something or nothing, and one ending.  In whatever
way its calls are noted, a run makes the same ones.
-/

namespace GraphTable

variable {ω : Type}

/-- A call of a stream with its answer.  A write comes with the candidate that
its producer makes. -/
inductive Call where
  | check (running : Bool)
  | pull (answer : Except StoreError (Option Json))
  | write (candidate : Option Row) (answer : Except SinkError UInt64)

/-- A world with the calls that were made in it so far. -/
structure Traced (ω : Type) where
  world : ω
  calls : List Call

namespace Traced

variable {α : Type}

def note (act : StateM ω α) (call : α → Call) : StateM (Traced ω) α :=
  fun traced =>
    let (answer, world) := act traced.world
    (answer, ⟨world, traced.calls ++ [call answer]⟩)

def unnoted (act : StateM (Traced ω) α) (calls : List Call) : StateM ω α :=
  fun world =>
    let (answer, traced) := act ⟨world, calls⟩
    (answer, traced.world)

end Traced

/-- A cursor that notes its calls. -/
def Cursor.traced (cursor : Cursor ω) : Cursor (Traced ω) where
  next := Traced.note cursor.next .pull
  bound traced := cursor.bound traced.world

def Sink.traced (sink : Sink ω) : Sink (Traced ω) where
  write produce traced :=
    Traced.note (sink.write (Traced.unnoted produce traced.calls))
      (.write (produce traced).1) traced

def Status.traced (status : Status ω) : Status (Traced ω) where
  isRunning := Traced.note status.isRunning .check

theorem Cursor.traced_next {cursor : Cursor ω} {world after : ω}
    {answer : Except StoreError (Option Json)} (noted : List Call)
    (pulled : cursor.next world = (answer, after)) :
    cursor.traced.next ⟨world, noted⟩ =
      (answer, ⟨after, noted ++ [.pull answer]⟩) := by
  simp only [Cursor.traced, Traced.note, pulled]

theorem Sink.traced_write {sink : Sink ω} {world after : ω}
    {candidate : Option Row} {answer : Except SinkError UInt64}
    (noted : List Call) (offered : sink.write (pure candidate) world = (answer, after)) :
    sink.traced.write (pure candidate) ⟨world, noted⟩ =
      (answer, ⟨after, noted ++ [.write candidate answer]⟩) := by
  have producer : Traced.unnoted (pure candidate) noted =
      (pure candidate : StateM ω (Option Row)) :=
    rfl
  simp only [Sink.traced, Traced.note, producer, offered]
  rfl

theorem Status.traced_isRunning {status : Status ω} {world after : ω}
    {running : Bool} (noted : List Call)
    (checked : status.isRunning world = (running, after)) :
    status.traced.isRunning ⟨world, noted⟩ =
      (running, ⟨after, noted ++ [.check running]⟩) := by
  simp only [Status.traced, Traced.note, checked]

namespace Stream

def calls (cursor : Cursor ω) (projector : Projector) (sink : Sink ω)
    (status : Status ω) (world : ω) : List Call :=
  (run cursor.traced projector sink.traced status.traced ⟨world, []⟩).2.calls

inductive Ending where
  | cancelled
  | broken (error : StoreError)
  | exhausted
  | refused (record : Json) (error : SinkError)

/-- The calls of the last round. -/
def Ending.calls (projector : Projector) : Ending → List Call
  | .cancelled => [.check false]
  | .broken error => [.check true, .pull (.error error)]
  | .exhausted => [.check true, .pull (.ok none)]
  | .refused record error =>
      [.check true, .pull (.ok (some record)),
        .write (projector.candidate? record) (.error error)]

/-- The result of a run that did so much before the last round. -/
def Ending.result (stats : StreamStats) :
    Ending → Except StreamError StreamStats
  | .cancelled => .ok { stats with cancelled := true }
  | .broken error => .error (.store error)
  | .exhausted => .ok stats
  | .refused _ error => .error (.sink error)

/-- The calls of a round after which the run goes on. -/
def roundCalls (projector : Projector) (record : Json) (count : UInt64) :
    List Call :=
  [.check true, .pull (.ok (some record)),
    .write (projector.candidate? record) (.ok count)]

/-- The course of a run: the records and counts of the rounds after which it
went on, and its ending. -/
structure Course where
  rounds : List (Json × UInt64)
  ending : Ending

namespace Course

def calls (projector : Projector) (course : Course) : List Call :=
  course.rounds.flatMap
      (fun (record, count) => roundCalls projector record count) ++
    course.ending.calls projector

/-- What the rounds add up to. -/
def stats (start : StreamStats) (course : Course) : StreamStats :=
  course.rounds.foldl (fun stats round => stats.add round.2) start

def result (start : StreamStats) (course : Course) :
    Except StreamError StreamStats :=
  course.ending.result (course.stats start)

theorem stats_counting (pulled written : Nat) (cancelled : Bool)
    (course : Course) :
    course.stats (.counting pulled written cancelled) =
      .counting (pulled + course.rounds.length)
        (written + (course.rounds.map fun round => round.2.toNat).sum)
        cancelled := by
  obtain ⟨rounds, ending⟩ := course
  induction rounds generalizing pulled written with
  | nil => rfl
  | cons round rounds ih =>
      have rest := ih (pulled + 1) (written + round.2.toNat)
      rw [← StreamStats.counting_add_word] at rest
      rw [Nat.add_assoc pulled, Nat.add_comm 1] at rest
      rw [List.map_cons, List.sum_cons, ← Nat.add_assoc written]
      exact rest

/-- What the rounds of a whole run add up to. -/
theorem stats_start (course : Course) :
    course.stats {} =
      .counting course.rounds.length
        (course.rounds.map fun round => round.2.toNat).sum false := by
  rw [← StreamStats.counting_zero, stats_counting, Nat.zero_add, Nat.zero_add]

end Course

variable {cursor : Cursor ω} {projector : Projector} {sink : Sink ω}
  {status : Status ω} {stats : StreamStats} {world after : ω}

/-- The calls of one round, by what comes of it. -/
inductive RoundMade (projector : Projector) (stats : StreamStats) :
    Outcome → List Call → Prop
  | passed (record : Json) (count : UInt64) :
      RoundMade projector stats (.again (stats.add count))
        (roundCalls projector record count)
  | ended (ending : Ending) :
      RoundMade projector stats (.done (ending.result stats))
        (ending.calls projector)

/-- What a run has made of its rounds, and its calls: it has come to an end, or
it was allowed no more rounds. -/
inductive Made (projector : Projector) (limit : Nat) (stats : StreamStats) :
    Option (Except StreamError StreamStats) → List Call → Prop
  | finished (course : Course) :
      Made projector limit stats (some (course.result stats))
        (course.calls projector)
  | unfinished (rounds : List (Json × UInt64))
      (length_eq : rounds.length = limit) :
      Made projector limit stats none
        (rounds.flatMap fun (record, count) =>
          roundCalls projector record count)

/-- One more round before the others. -/
theorem Made.cons {limit : Nat} {count : UInt64}
    {result : Option (Except StreamError StreamStats)} {made : List Call}
    (record : Json)
    (others : Made projector limit (stats.add count) result made) :
    Made projector (limit + 1) stats result
      (roundCalls projector record count ++ made) := by
  cases others with
  | finished course =>
      have whole :
          Course.calls projector
            ⟨(record, count) :: course.rounds, course.ending⟩ =
            roundCalls projector record count ++ course.calls projector := by
        simp only [Course.calls, List.flatMap_cons, List.append_assoc]
      rw [← whole]
      exact .finished ⟨(record, count) :: course.rounds, course.ending⟩
  | unfinished rounds length_eq =>
      exact .unfinished ((record, count) :: rounds) (by simp [length_eq])

section Noting

variable {κ ω₂ : Type} {note : Call → κ} {place : ω → List κ → ω₂}
  {cursor₂ : Cursor ω₂} {sink₂ : Sink ω₂} {status₂ : Status ω₂}

/-- In a world that is placed beside notes, calls act as they do without notes,
and each leaves one behind. -/
structure Notes (note : Call → κ) (place : ω → List κ → ω₂)
    (cursor : Cursor ω) (sink : Sink ω) (status : Status ω)
    (cursor₂ : Cursor ω₂) (sink₂ : Sink ω₂) (status₂ : Status ω₂) :
    Prop where
  check : ∀ {world running after},
    status.isRunning world = (running, after) → ∀ noted,
      status₂.isRunning (place world noted) =
        (running, place after (noted ++ [note (.check running)]))
  pull : ∀ {world answer after},
    cursor.next world = (answer, after) → ∀ noted,
      cursor₂.next (place world noted) =
        (answer, place after (noted ++ [note (.pull answer)]))
  write : ∀ {candidate world answer after},
    sink.write (pure candidate) world = (answer, after) → ∀ noted,
      sink₂.write (pure candidate) (place world noted) =
        (answer, place after (noted ++ [note (.write candidate answer)]))

/-- A round makes the same calls whatever was noted before, and notes do not
change what comes of it. -/
theorem Notes.round
    (notes : Notes note place cursor sink status cursor₂ sink₂ status₂)
    {outcome : Outcome}
    (ended : Stream.round cursor projector sink status stats world =
      (outcome, after)) :
    ∃ made, RoundMade projector stats outcome made ∧ ∀ noted,
      Stream.round cursor₂ projector sink₂ status₂ stats (place world noted) =
        (outcome, place after (noted ++ made.map note)) := by
  cases round_cases ended with
  | cancelled checked =>
      refine ⟨_, .ended .cancelled, fun noted => ?_⟩
      rw [round_apply, notes.check checked]
      rfl
  | @broken _ _ error checked pulled =>
      refine ⟨_, .ended (.broken error), fun noted => ?_⟩
      rw [round_apply, notes.check checked]
      simp only [notes.pull pulled, List.append_assoc]
      rfl
  | exhausted checked pulled =>
      refine ⟨_, .ended .exhausted, fun noted => ?_⟩
      rw [round_apply, notes.check checked]
      simp only [notes.pull pulled, List.append_assoc]
      rfl
  | @refused _ _ _ record error checked pulled offered =>
      refine ⟨_, .ended (.refused record error), fun noted => ?_⟩
      rw [round_apply, notes.check checked]
      simp only [notes.pull pulled, notes.write offered, List.append_assoc]
      rfl
  | @written _ _ _ record count checked pulled offered =>
      refine ⟨_, .passed record count, fun noted => ?_⟩
      rw [round_apply, notes.check checked]
      simp only [notes.pull pulled, notes.write offered, List.append_assoc]
      rfl

theorem Notes.rounds
    (notes : Notes note place cursor sink status cursor₂ sink₂ status₂)
    (limit : Nat) {result : Option (Except StreamError StreamStats)}
    (ended : Stream.rounds cursor projector sink status limit stats world =
      (result, after)) :
    ∃ made, Made projector limit stats result made ∧ ∀ noted,
      Stream.rounds cursor₂ projector sink₂ status₂ limit stats
        (place world noted) =
          (result, place after (noted ++ made.map note)) := by
  induction limit generalizing stats world with
  | zero =>
      cases ended
      refine ⟨_, .unfinished [] rfl, fun noted => ?_⟩
      rw [List.flatMap_nil, List.map_nil, List.append_nil]
      rfl
  | succ limit ih =>
      rw [rounds_succ] at ended
      rcases first : Stream.round cursor projector sink status stats world with
        ⟨outcome, middle⟩
      rw [first] at ended
      obtain ⟨made, isRound, noting⟩ := notes.round first
      cases isRound with
      | passed record count =>
          obtain ⟨others, isMade, behind⟩ := ih ended
          refine ⟨_, isMade.cons record, fun noted => ?_⟩
          rw [rounds_succ, noting, List.map_append]
          simp only [behind, List.append_assoc]
      | ended ending =>
          cases ended
          refine ⟨_, .finished ⟨[], ending⟩, fun noted => ?_⟩
          rw [rounds_succ, noting]
          rfl

end Noting

theorem notes_traced (cursor : Cursor ω) (sink : Sink ω) (status : Status ω) :
    Notes id Traced.mk cursor sink status cursor.traced sink.traced
      status.traced where
  check checked noted := Status.traced_isRunning noted checked
  pull pulled noted := Cursor.traced_next noted pulled
  write offered noted := Sink.traced_write noted offered

/-- Every run that comes to a result follows a course, which tells both its
calls and its result. -/
theorem run_course {result : Except StreamError StreamStats}
    (ended : run cursor projector sink status world = (some result, after)) :
    ∃ course : Course, result = course.result {} ∧
      calls cursor projector sink status world = course.calls projector ∧
      (run cursor.traced projector sink.traced status.traced
        ⟨world, []⟩).2.world = after := by
  rw [run_apply] at ended
  obtain ⟨made, isMade, noting⟩ :=
    (notes_traced cursor sink status).rounds _ ended
  have traced : run cursor.traced projector sink.traced status.traced
      ⟨world, []⟩ = (some result, ⟨after, made⟩) := by
    have tracedRounds := noting []
    rw [List.map_id, List.nil_append] at tracedRounds
    exact tracedRounds
  cases isMade with
  | finished course =>
      exact ⟨course, rfl, by rw [calls, traced], by rw [traced]⟩

end Stream

end GraphTable
