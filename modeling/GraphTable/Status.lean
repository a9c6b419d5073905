/-!
# Cancellation flags

A flag says whether a query was cancelled. A clone of a flag shares its cell, so
that cancelling one of them cancels all; a new flag has a cell of its own.
-/

namespace GraphTable

/-- A list of flags: the cell of each flag, and the content of each cell. -/
structure Flags where
  cells : List Bool
  flags : List Nat
  deriving Repr, DecidableEq

/-- What can be done with flags. -/
inductive FlagCommand where
  | new
  | clone (flag : Nat)
  | cancel (flag : Nat)
  deriving Repr, DecidableEq

namespace Flags

def single : Flags :=
  ⟨[false], [0]⟩

def isCancelled (state : Flags) (flag : Nat) : Bool :=
  match state.flags[flag]? with
  | some cell => state.cells[cell]?.getD false
  | none => false

def isRunning (state : Flags) (flag : Nat) : Bool :=
  !state.isCancelled flag

/-- Carry out a command. A flag that does not exist is neither cloned nor
cancelled. -/
def step (state : Flags) : FlagCommand → Flags
  | .new => ⟨state.cells ++ [false], state.flags ++ [state.cells.length]⟩
  | .clone flag =>
      match state.flags[flag]? with
      | some cell => { state with flags := state.flags ++ [cell] }
      | none => state
  | .cancel flag =>
      match state.flags[flag]? with
      | some cell => { state with cells := state.cells.set cell true }
      | none => state

end Flags

end GraphTable
