import GraphTable.Store.Error

/-!
# Cursors as machines

A puller is a cursor whose world is a state of its own. Records that are at hand
are pulled one by one; a faltering cursor gives an error once it has answered a
number of pulls.
-/

namespace GraphTable

/-- A cursor with states `κ`. -/
structure Puller (κ : Type) where
  next : κ → Except StoreError (Option Json) × κ
  /-- A number of records that a state does not exceed. -/
  bound : κ → Nat

namespace Puller

def nextRecord : List Json → Except StoreError (Option Json) × List Json
  | [] => (.ok none, [])
  | record :: rest => (.ok (some record), rest)

/-- The cursor over records that are at hand. -/
def records : Puller (List Json) :=
  ⟨nextRecord, List.length⟩

/-- Pull a number of times and collect the answers. -/
def pulls {κ : Type} (puller : Puller κ) : (count : Nat) → κ →
    List (Except StoreError (Option Json)) × κ
  | 0, state => ([], state)
  | count + 1, state =>
      let (answer, state) := puller.next state
      let (answers, state) := puller.pulls count state
      (answer :: answers, state)

end Puller

/-- Records with the error that comes once a number of pulls were answered. -/
structure FalteringRecords where
  records : List Json
  /-- The pulls that are still answered, and the error after them; none if all
  pulls are answered. -/
  failure : Option (Nat × StoreError)

namespace FalteringRecords

/-- Pull a record. The pull that finds the end is an answer as well. -/
def next (state : FalteringRecords) :
    Except StoreError (Option Json) × FalteringRecords :=
  match state.failure with
  | some (0, error) => (.error error, state)
  | some (left + 1, error) =>
      let (answer, records) := Puller.nextRecord state.records
      (answer, ⟨records, some (left, error)⟩)
  | none =>
      let (answer, records) := Puller.nextRecord state.records
      (answer, ⟨records, none⟩)

def puller : Puller FalteringRecords :=
  ⟨next, fun state => state.records.length⟩

end FalteringRecords

end GraphTable
