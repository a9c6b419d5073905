import GraphTable.Shape.FromDraft
import GraphTable.Store.Error
import GraphTable.Word

/-!
# Responses of a remote store

A response carries a status and data. Three codes are good news: more responses
follow, this is the last one, or the last one has no data. Every other code is
an error of the store.
-/

namespace GraphTable

variable {ν : Type} {m : Type → Type}
variable [Monad m] [MonadExceptOf Fault m] [Medium ν m]

structure ResponseStatus where
  code : Nat
  message : String

/-- A response as it was sent. -/
structure ResponseMessage where
  status : ResponseStatus
  data : Json

structure ResponseStatusSlots where
  code : Option Nat := none
  message : Option String := none

/-- How a status is read. A code has sixteen bits. -/
def ResponseStatus.shape : RecordShape m ν ResponseStatusSlots ResponseStatus where
  name := "ResponseStatus"
  slots :=
    [⟨"code", true, fun slots => slots.code.isSome, fun slots value =>
        return { slots with
          code := some (← Medium.natural (Word.limit 16) "u16" value) }⟩,
      ⟨"message", false, fun slots => slots.message.isSome, fun slots value =>
        return { slots with message := some (← Medium.string value) }⟩]
  blank := {}
  build slots := do
    let code ← requireField "code" slots.code
    return ⟨code, slots.message.getD ""⟩

/-- How a result is read: its data, which are null if they are left out. -/
def ResponseMessage.resultShape : RecordShape m ν (Option Json) Json where
  name := "ResponseResult"
  slots :=
    [⟨"data", false, Option.isSome, fun _ value => do
        return some (← Medium.json value)⟩]
  blank := none
  build data := .ok (data.getD .null)

structure ResponseMessageSlots where
  status : Option ResponseStatus := none
  data : Option Json := none

def ResponseMessage.shape :
    RecordShape m ν ResponseMessageSlots ResponseMessage where
  name := "ResponseMessage"
  slots :=
    [⟨"status", true, fun slots => slots.status.isSome, fun slots value =>
        return { slots with
          status := some (← ResponseStatus.shape.read value) }⟩,
      ⟨"result", false, fun slots => slots.data.isSome, fun slots value =>
        return { slots with
          data := some (← ResponseMessage.resultShape.read value) }⟩]
  blank := {}
  build slots := do
    let status ← requireField "status" slots.status
    return ⟨status, slots.data.getD .null⟩

/-- The records of a response, and whether it is the last one. -/
structure Response where
  records : List Json
  isLast : Bool

namespace Response

/-- The records that data stand for. -/
def recordsOf : Json → List Json
  | .null => []
  | .array items => items
  | value => [value]

/-- Judge a response by the code of its status. -/
def ofMessage (message : ResponseMessage) : Except StoreError Response :=
  match message.status.code with
  | 200 => .ok ⟨recordsOf message.data, true⟩
  | 204 => .ok ⟨[], true⟩
  | 206 => .ok ⟨recordsOf message.data, false⟩
  | code => .error (.remote code message.status.message)

def decode (text : String) : Except StoreError Response :=
  match Draft.decode ResponseMessage.shape.read text with
  | .ok message => ofMessage message
  | .error fault => .error (.json fault)

end Response

end GraphTable
