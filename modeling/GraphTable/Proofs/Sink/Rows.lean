import GraphTable.Sink.Guarded

/-!
# Rows of a block sink

An open block sink keeps every row it is offered, in order, however it cuts the
rows into blocks, and it counts the rows and the candidates.
-/

namespace GraphTable

namespace BlockSink

theorem sealCurrent_rows (sink : BlockSink) :
    sink.sealCurrent.rows = sink.rows := by
  unfold sealCurrent
  split
  · rfl
  · simp [rows]

theorem sealCurrent_counts (sink : BlockSink) :
    sink.sealCurrent.rowsWritten = sink.rowsWritten ∧
      sink.sealCurrent.candidates = sink.candidates ∧
      sink.sealCurrent.isClosed = sink.isClosed := by
  unfold sealCurrent
  split <;> exact ⟨rfl, rfl, rfl⟩

theorem accept_rows (sink : BlockSink) (row : Row) :
    (sink.accept row).rows = sink.rows ++ [row] := by
  unfold accept
  dsimp only
  split
  · rw [sealCurrent_rows]
    simp [rows]
  · simp [rows]

theorem accept_counts (sink : BlockSink) (row : Row) :
    (sink.accept row).rowsWritten = sink.rowsWritten + 1 ∧
      (sink.accept row).candidates = sink.candidates ∧
      (sink.accept row).isClosed = sink.isClosed := by
  unfold accept
  dsimp only
  split
  · exact sealCurrent_counts _
  · exact ⟨rfl, rfl, rfl⟩

/-- An open sink has taken candidates and is still open. -/
structure Took (sink : BlockSink) (candidates : List (Option Row))
    (after : BlockSink) : Prop where
  rows : after.rows = sink.rows ++ candidates.filterMap id
  written : after.rowsWritten =
    sink.rowsWritten + (candidates.filterMap id).length
  counted : after.candidates = sink.candidates + candidates.length
  isOpen : after.isClosed = false

theorem Took.nil {sink : BlockSink} (isOpen : sink.isClosed = false) :
    sink.Took [] sink :=
  ⟨by simp, rfl, rfl, isOpen⟩

theorem Took.append {sink middle after : BlockSink}
    {first second : List (Option Row)} (before : sink.Took first middle)
    (later : middle.Took second after) : sink.Took (first ++ second) after := by
  refine ⟨?_, ?_, ?_, later.isOpen⟩
  · rw [later.rows, before.rows, List.filterMap_append, List.append_assoc]
  · rw [later.written, before.written, List.filterMap_append,
      List.length_append, Nat.add_assoc]
  · rw [later.counted, before.counted, List.length_append, Nat.add_assoc]

/-- An open sink takes every candidate, and writes a row if there is one. -/
theorem offer_took {sink : BlockSink} (isOpen : sink.isClosed = false)
    (candidate : Option Row) :
    ∃ after,
      sink.offer candidate = (.ok (.ofNat candidate.toList.length), after) ∧
      sink.Took [candidate] after := by
  unfold offer
  rw [isOpen]
  cases candidate with
  | none => exact ⟨sink.count, rfl, by simp [rows, count], rfl, rfl, isOpen⟩
  | some row =>
      obtain ⟨written, counted, closed⟩ := accept_counts sink.count row
      exact ⟨sink.count.accept row, rfl, accept_rows sink.count row, written,
        counted, closed.trans isOpen⟩

/-- A candidate that is known beforehand is offered, and that is all. -/
theorem write_pure {ω : Type} (sink : BlockSink) (candidate : Option Row)
    (world : ω) :
    sink.write (pure candidate) world = (sink.offer candidate, world) := by
  unfold write
  split
  case isTrue isClosed =>
    simp only [offer, isClosed, if_true]
    rfl
  case isFalse => rfl

end BlockSink

namespace GuardedSink

/-- Offer a candidate that is known beforehand. -/
def offer (sink : GuardedSink) (candidate : Option Row) :
    Except SinkError UInt64 × GuardedSink :=
  match sink.refusal? with
  | some error => (.error error, sink)
  | none =>
      let (result, inner) := sink.inner.offer candidate
      (result, sink.settle inner)

theorem write_pure {ω : Type} (sink : GuardedSink) (candidate : Option Row)
    (world : ω) :
    sink.write (pure candidate) world = (sink.offer candidate, world) := by
  unfold write offer
  cases sink.refusal? with
  | some error => rfl
  | none =>
      have offered := BlockSink.write_pure sink.inner candidate world
      exact congrArg (fun ((result, inner), world) =>
        ((result, sink.settle inner), world)) offered

/-- A sink without limits passes candidates on. -/
theorem write_of_unlimited {ω : Type} (inner : BlockSink)
    (candidate : Option Row) (world : ω) :
    write ⟨inner, {}⟩ (pure candidate) world =
      (((inner.offer candidate).1, ⟨(inner.offer candidate).2, {}⟩),
        world) := by
  rw [write_pure]
  rfl

end GuardedSink

end GraphTable
