import GraphTable.Stream

/-!
# Rounds of a stream

A round is one check, at most one pull and at most one write; `Round` lists the
five ways in which it can go.  What every check, pull and write keeps is kept by
a whole run, and a cursor that keeps the promise of its bound lets every run
come to a result.
-/

namespace GraphTable

variable {ω : Type}

theorem bind_apply {α β : Type} (first : StateM ω α) (next : α → StateM ω β)
    (world : ω) :
    (first >>= next) world = next (first world).1 (first world).2 :=
  rfl

/-- What a projector makes of a value that a store gives. -/
def Projector.candidate? (projector : Projector) (value : Json) : Option Row :=
  projector.project? (Record.wrap projector.kind value)

/-- Count one more record, for which a sink wrote some rows. -/
def StreamStats.add (stats : StreamStats) (count : UInt64) : StreamStats :=
  { stats with
    pulled := stats.pulled + 1
    written := stats.written + count }

/-- The statistics of a run that pulled so many records, for which so many rows
were written: the numbers themselves as long as words can hold them. -/
def StreamStats.counting (pulled written : Nat) (cancelled : Bool) :
    StreamStats :=
  ⟨.ofNat pulled, .ofNat written, cancelled⟩

@[simp]
theorem StreamStats.counting_zero : counting 0 0 false = {} :=
  rfl

theorem StreamStats.counting_add (pulled written more : Nat)
    (cancelled : Bool) :
    (counting pulled written cancelled).add (.ofNat more) =
      counting (pulled + 1) (written + more) cancelled := by
  simp only [add, counting, UInt64.ofNat_add]
  rfl

theorem StreamStats.counting_add_word (pulled written : Nat) (cancelled : Bool)
    (count : UInt64) :
    (counting pulled written cancelled).add count =
      counting (pulled + 1) (written + count.toNat) cancelled := by
  rw [← counting_add, UInt64.ofNat_toNat]

/-- A sum that a word cannot hold starts again at zero. -/
example : (({} : StreamStats).add 18446744073709551615).add 1 =
    ⟨2, 0, false⟩ := by
  decide

theorem StreamStats.counting_exact {pulled written : Nat} (cancelled : Bool)
    (pulledFits : pulled < UInt64.size) (writtenFits : written < UInt64.size) :
    (counting pulled written cancelled).pulled.toNat = pulled ∧
      (counting pulled written cancelled).written.toNat = written :=
  ⟨UInt64.toNat_ofNat_of_lt' pulledFits, UInt64.toNat_ofNat_of_lt' writtenFits⟩

namespace Stream

theorem round_apply (cursor : Cursor ω) (projector : Projector) (sink : Sink ω)
    (status : Status ω) (stats : StreamStats) (world : ω) :
    round cursor projector sink status stats world =
      match status.isRunning world with
      | (false, world) =>
          (.done (.ok { stats with cancelled := true }), world)
      | (true, world) =>
          match cursor.next world with
          | (.error error, world) => (.done (.error (.store error)), world)
          | (.ok none, world) => (.done (.ok stats), world)
          | (.ok (some value), world) =>
              match sink.write (pure (projector.candidate? value)) world with
              | (.error error, world) =>
                  (.done (.error (.sink error)), world)
              | (.ok count, world) => (.again (stats.add count), world) := by
  unfold round
  rw [bind_apply]
  rcases status.isRunning world with ⟨_ | _, afterCheck⟩
  · rfl
  · simp only [if_true, bind_apply]
    rcases cursor.next afterCheck with ⟨_ | _ | value, afterPull⟩
    · rfl
    · rfl
    · simp only [bind_apply, Projector.candidate?]
      rcases sink.write _ afterPull with ⟨_ | _, afterWrite⟩ <;> rfl

theorem rounds_succ (cursor : Cursor ω) (projector : Projector)
    (sink : Sink ω) (status : Status ω) (limit : Nat) (stats : StreamStats)
    (world : ω) :
    rounds cursor projector sink status (limit + 1) stats world =
      match round cursor projector sink status stats world with
      | (.again stats, world) =>
          rounds cursor projector sink status limit stats world
      | (.done result, world) => (some result, world) := by
  rw [rounds, bind_apply]
  rcases round cursor projector sink status stats world with ⟨_ | _, after⟩ <;>
    rfl

theorem run_apply (cursor : Cursor ω) (projector : Projector) (sink : Sink ω)
    (status : Status ω) (world : ω) :
    run cursor projector sink status world =
      rounds cursor projector sink status (cursor.bound world + 1) {} world :=
  rfl

/-- How a round may go from one world to another: which calls it makes, in this
order, and what it makes of their answers. -/
inductive Round (cursor : Cursor ω) (projector : Projector) (sink : Sink ω)
    (status : Status ω) (stats : StreamStats) (world : ω) :
    Outcome → ω → Prop
  | cancelled {after : ω} (checked : status.isRunning world = (false, after)) :
      Round cursor projector sink status stats world
        (.done (.ok { stats with cancelled := true })) after
  | broken {afterCheck after : ω} {error : StoreError}
      (checked : status.isRunning world = (true, afterCheck))
      (pulled : cursor.next afterCheck = (.error error, after)) :
      Round cursor projector sink status stats world
        (.done (.error (.store error))) after
  | exhausted {afterCheck after : ω}
      (checked : status.isRunning world = (true, afterCheck))
      (pulled : cursor.next afterCheck = (.ok none, after)) :
      Round cursor projector sink status stats world (.done (.ok stats)) after
  | refused {afterCheck afterPull after : ω} {value : Json} {error : SinkError}
      (checked : status.isRunning world = (true, afterCheck))
      (pulled : cursor.next afterCheck = (.ok (some value), afterPull))
      (offered : sink.write (pure (projector.candidate? value)) afterPull =
        (.error error, after)) :
      Round cursor projector sink status stats world
        (.done (.error (.sink error))) after
  | written {afterCheck afterPull after : ω} {value : Json} {count : UInt64}
      (checked : status.isRunning world = (true, afterCheck))
      (pulled : cursor.next afterCheck = (.ok (some value), afterPull))
      (offered : sink.write (pure (projector.candidate? value)) afterPull =
        (.ok count, after)) :
      Round cursor projector sink status stats world
        (.again (stats.add count)) after

variable {cursor : Cursor ω} {projector : Projector} {sink : Sink ω}
  {status : Status ω} {stats : StreamStats} {world after : ω}

/-- Every round goes in one of the five ways. -/
theorem round_cases {outcome : Outcome}
    (ended : round cursor projector sink status stats world =
      (outcome, after)) :
    Round cursor projector sink status stats world outcome after := by
  rw [round_apply] at ended
  rcases checked : status.isRunning world with ⟨_ | _, afterCheck⟩
  · simp only [checked] at ended
    cases ended
    exact .cancelled checked
  rcases pulled : cursor.next afterCheck with ⟨_ | _ | value, afterPull⟩
  · simp only [checked, pulled] at ended
    cases ended
    exact .broken checked pulled
  · simp only [checked, pulled] at ended
    cases ended
    exact .exhausted checked pulled
  rcases offered : sink.write (pure (projector.candidate? value)) afterPull with
    ⟨_ | _, afterWrite⟩
  · simp only [checked, pulled, offered] at ended
    cases ended
    exact .refused checked pulled offered
  · simp only [checked, pulled, offered] at ended
    cases ended
    exact .written checked pulled offered

/-- Every call of a stream to the outside keeps a property of the world. -/
structure Keeps (property : ω → Prop) (cursor : Cursor ω) (sink : Sink ω)
    (status : Status ω) : Prop where
  check : ∀ {world running after}, property world →
    status.isRunning world = (running, after) → property after
  pull : ∀ {world answer after}, property world →
    cursor.next world = (answer, after) → property after
  write : ∀ {candidate world answer after}, property world →
    sink.write (pure candidate) world = (answer, after) → property after

namespace Keeps

variable {property : ω → Prop}

theorem round (keeps : Keeps property cursor sink status) {outcome : Outcome}
    (holds : property world)
    (ended : Stream.round cursor projector sink status stats world =
      (outcome, after)) :
    property after := by
  cases round_cases ended with
  | cancelled checked => exact keeps.check holds checked
  | broken checked pulled =>
      exact keeps.pull (keeps.check holds checked) pulled
  | exhausted checked pulled =>
      exact keeps.pull (keeps.check holds checked) pulled
  | refused checked pulled offered =>
      exact keeps.write (keeps.pull (keeps.check holds checked) pulled) offered
  | written checked pulled offered =>
      exact keeps.write (keeps.pull (keeps.check holds checked) pulled) offered

theorem rounds (keeps : Keeps property cursor sink status) (limit : Nat)
    (holds : property world) :
    property (Stream.rounds cursor projector sink status limit stats world).2 := by
  induction limit generalizing stats world with
  | zero => exact holds
  | succ limit ih =>
      rw [rounds_succ]
      rcases ended : Stream.round cursor projector sink status stats world with
        ⟨next | result, after⟩
      · exact ih (keeps.round holds ended)
      · exact keeps.round holds ended

/-- What every call keeps, a run keeps. -/
theorem run (keeps : Keeps property cursor sink status)
    (holds : property world) :
    property (Stream.run cursor projector sink status world).2 := by
  rw [run_apply]
  exact keeps.rounds _ holds

end Keeps

/-- The bound of a cursor falls with every record, and no other call raises
it. -/
structure KeepsBound (cursor : Cursor ω) (sink : Sink ω) (status : Status ω) :
    Prop where
  check : ∀ {world running after}, status.isRunning world = (running, after) →
    cursor.bound after ≤ cursor.bound world
  pull : ∀ {world record after}, cursor.next world = (.ok (some record), after) →
    cursor.bound after < cursor.bound world
  write : ∀ {candidate world answer after},
    sink.write (pure candidate) world = (answer, after) →
    cursor.bound after ≤ cursor.bound world

namespace KeepsBound

theorem bound_lt_of_again (keeps : KeepsBound cursor sink status)
    {next : StreamStats}
    (ended : round cursor projector sink status stats world =
      (.again next, after)) :
    cursor.bound after < cursor.bound world := by
  cases round_cases ended with
  | written checked pulled offered =>
      have checkBound := keeps.check checked
      have pullBound := keeps.pull pulled
      have writeBound := keeps.write offered
      omega

theorem rounds_isSome (keeps : KeepsBound cursor sink status) {limit : Nat}
    (enough : cursor.bound world < limit) :
    (rounds cursor projector sink status limit stats world).1.isSome := by
  induction limit generalizing stats world with
  | zero => omega
  | succ limit ih =>
      rw [rounds_succ]
      rcases ended : round cursor projector sink status stats world with
        ⟨next | result, after⟩
      · have fallen := keeps.bound_lt_of_again ended
        exact ih (by omega)
      · rfl

/-- A run over a cursor that keeps its bound has a result. -/
theorem run_isSome (keeps : KeepsBound cursor sink status)
    (projector : Projector) (world : ω) :
    (run cursor projector sink status world).1.isSome := by
  rw [run_apply]
  exact keeps.rounds_isSome (by omega)

end KeepsBound

end Stream

end GraphTable
