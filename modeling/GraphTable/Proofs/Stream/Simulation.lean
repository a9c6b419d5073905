import GraphTable.Proofs.Stream.Round

/-!
# Streams in related worlds

Two streams whose cursors, sinks and statuses answer alike have the same
results, call by call: it does not matter how a cursor comes by its records.
-/

namespace GraphTable

variable {ω₁ ω₂ α β : Type}

/-- Two actions answer alike: where the worlds are related before, the answers
are the same, and the worlds are related afterwards. -/
def Alike (related : ω₁ → ω₂ → Prop) (first : StateM ω₁ α)
    (second : StateM ω₂ α) : Prop :=
  ∀ world₁ world₂, related world₁ world₂ →
    (first world₁).1 = (second world₂).1 ∧
      related (first world₁).2 (second world₂).2

namespace Alike

variable {related : ω₁ → ω₂ → Prop}

theorem pure (answer : α) :
    Alike related (Pure.pure answer) (Pure.pure answer) :=
  fun _ _ holds => ⟨rfl, holds⟩

theorem bind {first : StateM ω₁ α} {second : StateM ω₂ α}
    {next₁ : α → StateM ω₁ β} {next₂ : α → StateM ω₂ β}
    (alike : Alike related first second)
    (next : ∀ answer, Alike related (next₁ answer) (next₂ answer)) :
    Alike related (first >>= next₁) (second >>= next₂) := by
  intro world₁ world₂ holds
  obtain ⟨same, after⟩ := alike world₁ world₂ holds
  rw [bind_apply, bind_apply, same]
  exact next _ _ _ after

end Alike

namespace Stream

variable {related : ω₁ → ω₂ → Prop}
  {cursor₁ : Cursor ω₁} {sink₁ : Sink ω₁} {status₁ : Status ω₁}
  {cursor₂ : Cursor ω₂} {sink₂ : Sink ω₂} {status₂ : Status ω₂}

/-- Whatever a stream asks of the first world is answered alike by the second
one. -/
structure Simulates (related : ω₁ → ω₂ → Prop)
    (cursor₁ : Cursor ω₁) (sink₁ : Sink ω₁) (status₁ : Status ω₁)
    (cursor₂ : Cursor ω₂) (sink₂ : Sink ω₂) (status₂ : Status ω₂) : Prop where
  check : Alike related status₁.isRunning status₂.isRunning
  pull : Alike related cursor₁.next cursor₂.next
  write : ∀ candidate, Alike related (sink₁.write (pure candidate))
    (sink₂.write (pure candidate))

namespace Simulates

theorem round
    (simulates : Simulates related cursor₁ sink₁ status₁ cursor₂ sink₂ status₂)
    (projector : Projector) (stats : StreamStats) :
    Alike related (Stream.round cursor₁ projector sink₁ status₁ stats)
      (Stream.round cursor₂ projector sink₂ status₂ stats) := by
  unfold Stream.round
  refine simulates.check.bind fun running => ?_
  cases running with
  | false => exact .pure _
  | true =>
      refine simulates.pull.bind fun answer => ?_
      rcases answer with error | _ | value
      · exact .pure _
      · exact .pure _
      · have offered := simulates.write (projector.candidate? value)
        refine offered.bind fun written => ?_
        cases written <;> exact .pure _

theorem rounds
    (simulates : Simulates related cursor₁ sink₁ status₁ cursor₂ sink₂ status₂)
    (projector : Projector) (limit : Nat) (stats : StreamStats) :
    Alike related (Stream.rounds cursor₁ projector sink₁ status₁ limit stats)
      (Stream.rounds cursor₂ projector sink₂ status₂ limit stats) := by
  induction limit generalizing stats with
  | zero => exact .pure none
  | succ limit ih =>
      unfold Stream.rounds
      refine (simulates.round projector stats).bind fun outcome => ?_
      cases outcome with
      | again stats => exact ih stats
      | done result => exact .pure (some result)

end Simulates

/-- A run that has come to a result does not go on, however many rounds it may
carry out. -/
theorem rounds_add {ω : Type} {cursor : Cursor ω} {projector : Projector}
    {sink : Sink ω} {status : Status ω} {stats : StreamStats}
    {world after : ω} {limit : Nat}
    {result : Except StreamError StreamStats} (more : Nat)
    (ended : rounds cursor projector sink status limit stats world =
      (some result, after)) :
    rounds cursor projector sink status (limit + more) stats world =
      (some result, after) := by
  induction limit generalizing stats world with
  | zero => cases ended
  | succ limit ih =>
      rw [rounds_succ] at ended
      rw [Nat.add_right_comm, rounds_succ]
      rcases first : round cursor projector sink status stats world with
        ⟨next | last, middle⟩
      · simp only [first] at ended ⊢
        exact ih ended
      · simp only [first] at ended ⊢
        exact ended

/-- Runs in related worlds have the same result, if the second one keeps its
bound and the first one is allowed as many rounds. -/
theorem Simulates.run
    (simulates : Simulates related cursor₁ sink₁ status₁ cursor₂ sink₂ status₂)
    (keeps : KeepsBound cursor₂ sink₂ status₂) (projector : Projector)
    {world₁ : ω₁} {world₂ : ω₂} (holds : related world₁ world₂)
    (allowed : cursor₂.bound world₂ ≤ cursor₁.bound world₁) :
    ∃ result after₁ after₂,
      Stream.run cursor₁ projector sink₁ status₁ world₁ =
        (some result, after₁) ∧
      Stream.run cursor₂ projector sink₂ status₂ world₂ =
        (some result, after₂) ∧
      related after₁ after₂ := by
  obtain ⟨result, finished⟩ := Option.isSome_iff_exists.mp
    (keeps.run_isSome projector world₂)
  have ended : Stream.run cursor₂ projector sink₂ status₂ world₂ =
      (some result, (Stream.run cursor₂ projector sink₂ status₂ world₂).2) :=
    Prod.ext finished rfl
  obtain ⟨more, isMore⟩ := Nat.exists_eq_add_of_le (Nat.succ_le_succ allowed)
  have prolonged := rounds_add more ended
  rw [← isMore] at prolonged
  obtain ⟨same, after⟩ := simulates.rounds projector
    (cursor₁.bound world₁ + 1) {} world₁ world₂ holds
  rw [prolonged] at same after
  exact ⟨result, _, _, Prod.ext same rfl, ended, after⟩

end Stream

end GraphTable
