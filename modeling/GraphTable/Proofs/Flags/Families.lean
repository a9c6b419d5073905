import Mathlib.Logic.Relation
import GraphTable.Status

/-!
# Families of flags

Flags are of one family if clones connect them, in either direction and over any
number of clones.  A flag reports that it was cancelled exactly if a flag of its
family was, whichever of cancelling and cloning came first.
-/

namespace GraphTable

namespace FlagCommand

/-- The number of flags behind a command. -/
def madeAfter (count : Nat) : FlagCommand → Nat
  | .new => count + 1
  | .clone flag => if flag < count then count + 1 else count
  | .cancel _ => count

def made (history : List FlagCommand) : Nat :=
  history.foldl madeAfter 0

/-- A flag was made as the clone of another one. -/
inductive Cloned (history : List FlagCommand) : Nat → Nat → Prop
  | mk {before behind : List FlagCommand} {flag : Nat}
      (split : history = before ++ .clone flag :: behind)
      (isThere : flag < made before) :
      Cloned history flag (made before)

/-- A flag was cancelled itself. -/
inductive Cancelled (history : List FlagCommand) : Nat → Prop
  | mk {before behind : List FlagCommand} {flag : Nat}
      (split : history = before ++ .cancel flag :: behind)
      (isThere : flag < made before) :
      Cancelled history flag

/-- Two flags are connected by clones. -/
def Family (history : List FlagCommand) : Nat → Nat → Prop :=
  Relation.EqvGen (Cloned history)

variable {history later : List FlagCommand} {command entry : FlagCommand}
  {flag clone : Nat}

/-- A command of a longer history is its last one or stands before it. -/
theorem split_concat {before behind : List FlagCommand}
    (split : history ++ [command] = before ++ entry :: behind) :
    (history = before ∧ command = entry) ∨
      ∃ others, history = before ++ entry :: others := by
  rcases List.eq_nil_or_concat behind with rfl | ⟨others, last, rfl⟩
  · obtain ⟨same, sameLast⟩ := List.append_inj' split rfl
    exact .inl ⟨same, List.singleton_inj.mp sameLast⟩
  · rw [List.concat_eq_append, ← List.cons_append, ← List.append_assoc] at split
    exact .inr ⟨others, (List.append_inj' split rfl).1⟩

theorem made_concat (history : List FlagCommand) (command : FlagCommand) :
    made (history ++ [command]) = madeAfter (made history) command := by
  rw [made, List.foldl_append]
  rfl

theorem cloned_concat_iff :
    Cloned (history ++ [command]) flag clone ↔
      Cloned history flag clone ∨
        (command = .clone flag ∧ flag < made history ∧ clone = made history) := by
  constructor
  · rintro ⟨split, isThere⟩
    rcases split_concat split with ⟨rfl, rfl⟩ | ⟨others, rfl⟩
    · exact .inr ⟨rfl, isThere, rfl⟩
    · exact .inl ⟨rfl, isThere⟩
  · rintro (⟨rfl, isThere⟩ | ⟨rfl, isThere, rfl⟩)
    · exact ⟨List.append_assoc _ _ _, isThere⟩
    · exact ⟨rfl, isThere⟩

theorem cancelled_concat_iff :
    Cancelled (history ++ [command]) flag ↔
      Cancelled history flag ∨ (command = .cancel flag ∧ flag < made history) := by
  constructor
  · rintro ⟨split, isThere⟩
    rcases split_concat split with ⟨rfl, rfl⟩ | ⟨others, rfl⟩
    · exact .inr ⟨rfl, isThere⟩
    · exact .inl ⟨rfl, isThere⟩
  · rintro (⟨rfl, isThere⟩ | ⟨rfl, isThere⟩)
    · exact ⟨List.append_assoc _ _ _, isThere⟩
    · exact ⟨rfl, isThere⟩

theorem Cloned.append (cloned : Cloned history flag clone)
    (later : List FlagCommand) : Cloned (history ++ later) flag clone := by
  obtain ⟨rfl, isThere⟩ := cloned
  exact ⟨List.append_assoc _ _ _, isThere⟩

theorem Cancelled.append (cancelled : Cancelled history flag)
    (later : List FlagCommand) : Cancelled (history ++ later) flag := by
  obtain ⟨rfl, isThere⟩ := cancelled
  exact ⟨List.append_assoc _ _ _, isThere⟩

theorem Family.append {other : Nat} (family : Family history flag other)
    (later : List FlagCommand) : Family (history ++ later) flag other :=
  Relation.EqvGen.mono (fun _ _ cloned => cloned.append later) _ _ family

end FlagCommand

namespace Flags

open FlagCommand

variable {state : Flags} {history : List FlagCommand} {flag other cell : Nat}

def empty : Flags :=
  ⟨[], []⟩

/-- Carry out commands, beginning without flags. -/
def run (history : List FlagCommand) : Flags :=
  history.foldl step empty

theorem run_concat (history : List FlagCommand) (command : FlagCommand) :
    run (history ++ [command]) = (run history).step command := by
  rw [run, List.foldl_append]
  rfl

theorem isCancelled_eq_true_iff :
    state.isCancelled flag = true ↔
      ∃ cell, state.flags[flag]? = some cell ∧
        state.cells[cell]? = some true := by
  rw [isCancelled]
  cases state.flags[flag]? with
  | none => simp
  | some cell => cases content : state.cells[cell]? <;> simp [content]

/-- What a command does: it adds a flag with a new cell, adds a flag with the cell
of another one, or sets a cell.  A flag that is not there makes it do nothing. -/
inductive Steps (state : Flags) : FlagCommand → Flags → Prop
  | new :
      Steps state .new
        ⟨state.cells ++ [false], state.flags ++ [state.cells.length]⟩
  | clone {flag cell : Nat} (isThere : state.flags[flag]? = some cell) :
      Steps state (.clone flag) ⟨state.cells, state.flags ++ [cell]⟩
  | noClone {flag : Nat} (missing : state.flags[flag]? = none) :
      Steps state (.clone flag) state
  | cancel {flag cell : Nat} (isThere : state.flags[flag]? = some cell) :
      Steps state (.cancel flag) ⟨state.cells.set cell true, state.flags⟩
  | noCancel {flag : Nat} (missing : state.flags[flag]? = none) :
      Steps state (.cancel flag) state

theorem steps_step (state : Flags) (command : FlagCommand) :
    state.Steps command (state.step command) := by
  cases command with
  | new => exact .new
  | clone flag =>
      cases found : state.flags[flag]? with
      | some cell =>
          simp only [step, found]
          exact .clone found
      | none =>
          simp only [step, found]
          exact .noClone found
  | cancel flag =>
      cases found : state.flags[flag]? with
      | some cell =>
          simp only [step, found]
          exact .cancel found
      | none =>
          simp only [step, found]
          exact .noCancel found

theorem getElem?_append_of_some {α : Type} {items : List α} {index : Nat}
    {item : α} (found : items[index]? = some item) (more : List α) :
    (items ++ more)[index]? = some item := by
  rw [List.getElem?_append_left (List.getElem?_eq_some_iff.mp found).1, found]

theorem getElem?_concat_eq_some {α : Type} {items : List α} {index : Nat}
    {item last : α} (found : (items ++ [last])[index]? = some item) :
    items[index]? = some item ∨ (index = items.length ∧ last = item) := by
  rcases Nat.lt_trichotomy index items.length with before | rfl | behind
  · rw [List.getElem?_append_left before] at found
    exact .inl found
  · rw [List.getElem?_concat_length] at found
    exact .inr ⟨rfl, Option.some.inj found⟩
  · rw [List.getElem?_eq_none (by rw [List.length_append]; exact behind)] at found
    cases found

theorem getElem?_set_true {cells : List Bool} (cell : Nat)
    (found : cells[other]? = some true) :
    (cells.set cell true)[other]? = some true := by
  rw [List.getElem?_set]
  split
  · next same =>
      rw [same, if_pos (List.getElem?_eq_some_iff.mp found).1]
  · exact found

theorem isCancelled_step (isSet : state.isCancelled flag = true)
    (command : FlagCommand) : (state.step command).isCancelled flag = true := by
  obtain ⟨cell, isThere, content⟩ := isCancelled_eq_true_iff.mp isSet
  rw [isCancelled_eq_true_iff]
  generalize after : state.step command = next
  cases after ▸ state.steps_step command with
  | new =>
      exact ⟨cell, getElem?_append_of_some isThere _,
        getElem?_append_of_some content _⟩
  | clone => exact ⟨cell, getElem?_append_of_some isThere _, content⟩
  | noClone => exact ⟨cell, isThere, content⟩
  | @cancel _ target => exact ⟨cell, isThere, getElem?_set_true target content⟩
  | noCancel => exact ⟨cell, isThere, content⟩

/-- What a state owes to its history: flags with one cell are of one family, and
a cell is set exactly if one of its flags was cancelled. -/
structure Tracks (history : List FlagCommand) (state : Flags) : Prop where
  count : state.flags.length = made history
  within : ∀ {flag cell : Nat}, state.flags[flag]? = some cell →
    cell < state.cells.length
  shared : ∀ {flag clone : Nat}, Cloned history flag clone →
    ∃ cell, state.flags[flag]? = some cell ∧ state.flags[clone]? = some cell
  related : ∀ {flag other cell : Nat}, state.flags[flag]? = some cell →
    state.flags[other]? = some cell → Family history flag other
  spread : ∀ {flag : Nat}, Cancelled history flag →
    state.isCancelled flag = true
  cause : ∀ {cell : Nat}, state.cells[cell]? = some true →
    ∃ flag, state.flags[flag]? = some cell ∧ Cancelled history flag

theorem tracks_empty : Tracks [] empty where
  count := rfl
  within := nofun
  shared := by
    rintro flag clone ⟨split, -⟩
    simp at split
  related := nofun
  spread := by
    rintro flag ⟨split, -⟩
    simp at split
  cause := nofun

namespace Tracks

variable (tracks : state.Tracks history)

include tracks

theorem isThere_iff :
    (∃ cell, state.flags[flag]? = some cell) ↔ flag < made history := by
  rw [← tracks.count]
  exact ⟨fun ⟨_, isThere⟩ => (List.getElem?_eq_some_iff.mp isThere).1,
    fun within => ⟨_, List.getElem?_eq_getElem within⟩⟩

theorem step_new :
    Tracks (history ++ [.new])
      ⟨state.cells ++ [false], state.flags ++ [state.cells.length]⟩ where
  count := by
    rw [made_concat, List.length_append, tracks.count]
    rfl
  within := by
    intro flag cell isThere
    rw [List.length_append]
    rcases getElem?_concat_eq_some isThere with old | ⟨-, rfl⟩
    · exact Nat.lt_succ_of_lt (tracks.within old)
    · exact Nat.lt_succ_self _
  shared := by
    intro flag clone cloned
    rcases cloned_concat_iff.mp cloned with before | ⟨differs, -⟩
    · obtain ⟨cell, isThere, cloneThere⟩ := tracks.shared before
      exact ⟨cell, getElem?_append_of_some isThere _,
        getElem?_append_of_some cloneThere _⟩
    · cases differs
  related := by
    intro flag other cell isThere otherThere
    rcases getElem?_concat_eq_some isThere with old | ⟨isLast, rfl⟩
    · rcases getElem?_concat_eq_some otherThere with otherOld | ⟨-, rfl⟩
      · exact (tracks.related old otherOld).append _
      · exact absurd (tracks.within old) (Nat.lt_irrefl _)
    · rcases getElem?_concat_eq_some otherThere with otherOld | ⟨otherLast, -⟩
      · exact absurd (tracks.within otherOld) (Nat.lt_irrefl _)
      · rw [isLast, otherLast]
        exact .refl _
  spread := by
    intro flag cancelled
    rcases cancelled_concat_iff.mp cancelled with before | ⟨differs, -⟩
    · exact isCancelled_step (tracks.spread before) .new
    · cases differs
  cause := by
    intro cell isSet
    rcases getElem?_concat_eq_some isSet with old | ⟨-, differs⟩
    · obtain ⟨flag, isThere, cancelled⟩ := tracks.cause old
      exact ⟨flag, getElem?_append_of_some isThere _, cancelled.append _⟩
    · cases differs

theorem step_clone (isThere : state.flags[flag]? = some cell) :
    Tracks (history ++ [.clone flag]) ⟨state.cells, state.flags ++ [cell]⟩ := by
  have within : flag < made history :=
    tracks.isThere_iff.mp ⟨cell, isThere⟩
  have last : (state.flags ++ [cell])[made history]? = some cell := by
    rw [← tracks.count]
    exact List.getElem?_concat_length
  have cloned : Cloned (history ++ [.clone flag]) flag (made history) :=
    cloned_concat_iff.mpr (.inr ⟨rfl, within, rfl⟩)
  have old : ∀ {first shared : Nat},
      (state.flags ++ [cell])[first]? = some shared → ∃ second,
        state.flags[second]? = some shared ∧
          Family (history ++ [.clone flag]) first second := by
    intro first shared firstThere
    rcases getElem?_concat_eq_some firstThere with before | ⟨rfl, rfl⟩
    · exact ⟨first, before, .refl _⟩
    · rw [tracks.count]
      exact ⟨flag, isThere, .symm _ _ (.rel _ _ cloned)⟩
  refine ⟨?_, ?_, ?_, ?_, ?_, ?_⟩
  · rw [made_concat, madeAfter, if_pos within, List.length_append, tracks.count]
    rfl
  · intro first shared firstThere
    obtain ⟨second, secondThere, -⟩ := old firstThere
    exact tracks.within secondThere
  · intro first second cloned
    rcases cloned_concat_iff.mp cloned with before | ⟨same, -, rfl⟩
    · obtain ⟨cell, isThere, cloneThere⟩ := tracks.shared before
      exact ⟨cell, getElem?_append_of_some isThere _,
        getElem?_append_of_some cloneThere _⟩
    · cases same
      exact ⟨cell, getElem?_append_of_some isThere _, last⟩
  · intro first second shared firstThere secondThere
    obtain ⟨firstOld, firstOldThere, firstFamily⟩ := old firstThere
    obtain ⟨secondOld, secondOldThere, secondFamily⟩ := old secondThere
    have between := (tracks.related firstOldThere secondOldThere).append
      [.clone flag]
    exact .trans _ _ _ firstFamily (.trans _ _ _ between (.symm _ _ secondFamily))
  · intro other cancelled
    rcases cancelled_concat_iff.mp cancelled with before | ⟨differs, -⟩
    · have kept := isCancelled_step (tracks.spread before) (.clone flag)
      simpa only [step, isThere] using kept
    · cases differs
  · intro other isSet
    obtain ⟨first, firstThere, cancelled⟩ := tracks.cause isSet
    exact ⟨first, getElem?_append_of_some firstThere _, cancelled.append _⟩

theorem step_cancel (isThere : state.flags[flag]? = some cell) :
    Tracks (history ++ [.cancel flag])
      ⟨state.cells.set cell true, state.flags⟩ where
  count := by
    rw [made_concat]
    exact tracks.count
  within := by
    intro other otherCell otherThere
    rw [List.length_set]
    exact tracks.within otherThere
  shared := by
    intro other clone cloned
    rcases cloned_concat_iff.mp cloned with before | ⟨differs, -⟩
    · exact tracks.shared before
    · cases differs
  related := by
    intro first second shared firstThere secondThere
    exact (tracks.related firstThere secondThere).append _
  spread := by
    intro other cancelled
    rcases cancelled_concat_iff.mp cancelled with before | ⟨same, -⟩
    · have kept := isCancelled_step (tracks.spread before) (.cancel flag)
      simpa only [step, isThere] using kept
    · cases same
      rw [isCancelled_eq_true_iff]
      exact ⟨cell, isThere, List.getElem?_set_self (tracks.within isThere)⟩
  cause := by
    intro other isSet
    by_cases same : cell = other
    · subst same
      have within := tracks.isThere_iff.mp ⟨cell, isThere⟩
      exact ⟨flag, isThere, cancelled_concat_iff.mpr (.inr ⟨rfl, within⟩)⟩
    · rw [List.getElem?_set_ne same] at isSet
      obtain ⟨first, firstThere, cancelled⟩ := tracks.cause isSet
      exact ⟨first, firstThere, cancelled.append _⟩

/-- A command on a flag that is not there is no part of what happened. -/
theorem step_missing {command : FlagCommand}
    (missing : made history ≤ flag)
    (onIt : command = .clone flag ∨ command = .cancel flag) :
    Tracks (history ++ [command]) state := by
  have notThere : ¬flag < made history := Nat.not_lt_of_le missing
  refine ⟨?_, tracks.within, ?_, ?_, ?_, ?_⟩
  · rw [made_concat, tracks.count]
    rcases onIt with rfl | rfl
    · rw [madeAfter, if_neg notThere]
    · rfl
  · intro first second cloned
    rcases cloned_concat_iff.mp cloned with before | ⟨same, isThere, -⟩
    · exact tracks.shared before
    · rcases onIt with rfl | rfl <;> cases same
      exact absurd isThere notThere
  · intro first second shared firstThere secondThere
    exact (tracks.related firstThere secondThere).append _
  · intro other cancelled
    rcases cancelled_concat_iff.mp cancelled with before | ⟨same, isThere⟩
    · exact tracks.spread before
    · rcases onIt with rfl | rfl <;> cases same
      exact absurd isThere notThere
  · intro cell isSet
    obtain ⟨first, firstThere, cancelled⟩ := tracks.cause isSet
    exact ⟨first, firstThere, cancelled.append _⟩

protected theorem step (command : FlagCommand) :
    Tracks (history ++ [command]) (state.step command) := by
  generalize after : state.step command = next
  cases after ▸ state.steps_step command with
  | new => exact tracks.step_new
  | clone isThere => exact tracks.step_clone isThere
  | noClone missing =>
      rw [List.getElem?_eq_none_iff, tracks.count] at missing
      exact tracks.step_missing missing (.inl rfl)
  | cancel isThere => exact tracks.step_cancel isThere
  | noCancel missing =>
      rw [List.getElem?_eq_none_iff, tracks.count] at missing
      exact tracks.step_missing missing (.inr rfl)

/-- Flags of one family have one cell. -/
theorem same_cell (family : Family history flag other) :
    state.flags[flag]? = state.flags[other]? := by
  induction family with
  | rel flag clone cloned =>
      obtain ⟨cell, isThere, cloneThere⟩ := tracks.shared cloned
      rw [isThere, cloneThere]
  | refl => rfl
  | symm _ _ _ ih => exact ih.symm
  | trans _ _ _ _ _ first second => exact first.trans second

theorem isCancelled_iff :
    state.isCancelled flag = true ↔
      ∃ other, Family history flag other ∧ Cancelled history other := by
  constructor
  · intro isSet
    obtain ⟨cell, isThere, content⟩ := isCancelled_eq_true_iff.mp isSet
    obtain ⟨other, otherThere, cancelled⟩ := tracks.cause content
    exact ⟨other, tracks.related isThere otherThere, cancelled⟩
  · rintro ⟨other, family, cancelled⟩
    have isSet := tracks.spread cancelled
    rw [isCancelled, tracks.same_cell family]
    exact isSet

/-- The state behind further commands. -/
theorem foldl_step (commands : List FlagCommand) :
    Tracks (history ++ commands) (commands.foldl step state) := by
  induction commands generalizing history state with
  | nil =>
      rw [List.append_nil]
      exact tracks
  | cons command commands ih =>
      have later := ih (tracks.step command)
      rw [List.append_assoc] at later
      exact later

/-- A command that cancels no flag of its family leaves the report of a flag as
it is. -/
theorem isCancelled_step_of_apart {command : FlagCommand}
    (isThere : flag < made history)
    (apart : ∀ target, command = .cancel target →
      ¬Family history flag target) :
    (state.step command).isCancelled flag = state.isCancelled flag := by
  obtain ⟨own, found⟩ := tracks.isThere_iff.mpr isThere
  generalize after : state.step command = next
  cases after ▸ state.steps_step command with
  | new =>
      simp only [isCancelled, getElem?_append_of_some found, found,
        List.getElem?_append_left (tracks.within found)]
  | clone => simp only [isCancelled, getElem?_append_of_some found, found]
  | noClone => rfl
  | @cancel target cell targetThere =>
      have otherCell : cell ≠ own := by
        rintro rfl
        exact apart target rfl (tracks.related found targetThere)
      simp only [isCancelled, found, List.getElem?_set_ne otherCell]
  | noCancel => rfl

end Tracks

theorem tracks_run (history : List FlagCommand) :
    Tracks history (run history) :=
  tracks_empty.foldl_step history

/-- However flags are made, cloned and cancelled, there are as many as were made
and cloned.  A flag reports that it was cancelled exactly if a flag of its family
was, before or after they were connected, and its query is wanted exactly if it
does not.  So a cancelled flag remains cancelled, and no command on one family
changes the report of a flag of another one. -/
theorem reports_of_families (history : List FlagCommand) :
    (run history).flags.length = made history ∧
    (∀ flag, (run history).isCancelled flag = true ↔
      ∃ other, Family history flag other ∧ Cancelled history other) ∧
    (∀ flag, (run history).isRunning flag = !(run history).isCancelled flag) ∧
    (∀ later flag, (run history).isCancelled flag = true →
      (run (history ++ later)).isCancelled flag = true) ∧
    ∀ command flag, flag < made history →
      (∀ target, command = .cancel target → ¬Family history flag target) →
        (run (history ++ [command])).isCancelled flag =
          (run history).isCancelled flag := by
  have tracks := tracks_run history
  refine ⟨tracks.count, fun flag => tracks.isCancelled_iff, fun flag => rfl,
    fun later flag isSet => ?_, fun command flag isThere apart => ?_⟩
  · obtain ⟨other, family, cancelled⟩ := tracks.isCancelled_iff.mp isSet
    exact (tracks_run (history ++ later)).isCancelled_iff.mpr
      ⟨other, family.append later, cancelled.append later⟩
  · rw [run_concat]
    exact tracks.isCancelled_step_of_apart isThere apart

/-- The clone of a cancelled flag, and a flag of another family. -/
theorem reports_of_late_clone :
    let history : List FlagCommand := [.new, .new, .cancel 0, .clone 0]
    (run history).isCancelled 0 = true ∧
      (run (history ++ [.cancel 1])).isCancelled 0 = true ∧
      (run history).isCancelled 1 = false ∧ ¬Family history 1 2 ∧
      (run (history ++ [.cancel 2])).isCancelled 1 = false := by
  intro history
  have isSet : (run history).isCancelled 0 = true := rfl
  have notSet : (run history).isCancelled 1 = false := rfl
  have apart : ¬Family history 1 2 := by
    intro family
    have same := (tracks_run history).same_cell family
    exact absurd same (by decide)
  obtain ⟨-, -, -, remains, unchanged⟩ := reports_of_families history
  refine ⟨isSet, remains [.cancel 1] 0 isSet, notSet, apart, ?_⟩
  rw [unchanged (.cancel 2) 1 (by decide), notSet]
  rintro target same
  cases same
  exact apart

end Flags

end GraphTable
