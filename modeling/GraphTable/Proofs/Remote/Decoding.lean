import GraphTable.Proofs.Json.Printed
import GraphTable.Proofs.Remote.Delivery

/-!
# Decoding of responses

A response is an object with a status and perhaps a result.  What a client makes
of any text of it depends on the code, the message and the data alone, wherever
they stand and whatever stands beside them.
-/

namespace GraphTable

namespace Json

/-- The members of a status: a code of sixteen bits, a message unless it is left
out, and any others. -/
structure IsStatus (members : Entries Json) (code : Nat) (message : Option String) :
    Prop where
  hasCode : members.valuesOf "code" = [.number (.int code)]
  small : code < Word.limit 16
  hasMessage : members.valuesOf "message" = message.toList.map .string

/-- What stands under the name of a result: nothing, or an object with data
unless they are left out. -/
inductive IsResult : List Json → Option Json → Prop
  | absent : IsResult [] none
  | object {members : Entries Json} {data : Option Json}
      (hasData : members.valuesOf "data" = data.toList) :
      IsResult [.object members] data

/-- A response with a code, a message and data. -/
inductive IsResponse : Json → Nat → Option String → Option Json → Prop
  | mk {members status : Entries Json} {code : Nat} {message : Option String}
      {data : Option Json}
      (hasStatus : members.valuesOf "status" = [.object status])
      (isStatus : IsStatus status code message)
      (isResult : IsResult (members.valuesOf "result") data) :
      IsResponse (.object members) code message data

end Json

namespace Draft

variable {depth : Nat} {draft : Draft} {drafts : List Draft} {value : Json}

/-- An object that is not too deep is depicted by one with the same members. -/
theorem Depicts.exists_hasMembers {members : Entries Json} (known : List String)
    (shallow : depth + 1 < depthLimit)
    (depicts : Depicts depth draft (.object members)) :
    ∃ drafts, draft.HasMembers known drafts ∧ ∀ name,
      DepictItems (depth + 1) (drafts.valuesOf name) (members.valuesOf name) := by
  cases depicts with
  | @object _ raw _ areDepicted =>
      obtain ⟨drafts, named, sound, depict⟩ := areDepicted.exists_entries
      refine ⟨drafts,
        ⟨raw, ?_, named, fun member mem _ => sound member mem⟩, depict⟩
      rw [decide_eq_false (Nat.not_le.mpr shallow)]

/-- What depicts at most one value is a field with it. -/
theorem DepictItems.field {α : Type} {Is : Draft → α → Prop} {toValue : α → Json}
    {found : Option α}
    (is : ∀ draft value, found = some value → Depicts depth draft (toValue value) →
      Is draft value)
    (depict : DepictItems depth drafts (found.toList.map toValue)) :
    Field Is drafts found := by
  cases found with
  | none =>
      cases depict
      exact .absent
  | some value =>
      obtain ⟨draft, rfl, depicts⟩ := depict.eq_singleton
      exact .present (is draft value rfl depicts)

variable {code : Nat} {message : Option String} {data : Option Json}

theorem Depicts.isStatus {members : Entries Json} (shallow : depth + 1 < depthLimit)
    (isStatus : Json.IsStatus members code message)
    (depicts : Depicts depth draft (.object members)) :
    draft.IsStatus (code, message) := by
  obtain ⟨hasCode, small, hasMessage⟩ := isStatus
  obtain ⟨drafts, has, depict⟩ :=
    depicts.exists_hasMembers ["code", "message"] shallow
  have codes := depict "code"
  have messages := depict "message"
  rw [hasCode] at codes
  rw [hasMessage] at messages
  obtain ⟨first, isFirst, isCode⟩ := codes.eq_singleton
  refine .object has ?_ (messages.field ?_)
  · rw [isFirst]
    cases isCode with
    | number standsFor => exact .present (.mk standsFor small)
  · intro draft text _ isText
    cases isText with
    | string isText => exact .mk isText

/-- The data may be nested as deeply as the reader allows inside a response. -/
theorem DepictItems.isResult {results : List Json} {levels : Nat}
    (shallow : depth + 1 + levels < depthLimit)
    (isResult : Json.IsResult results data)
    (fits : ∀ value ∈ data, value.Fits levels)
    (depict : DepictItems depth drafts results) :
    ∃ result, Field IsResult drafts result ∧ result.join = data := by
  cases isResult with
  | absent =>
      cases depict
      exact ⟨none, .absent, rfl⟩
  | object hasData =>
      obtain ⟨draft, rfl, depicts⟩ := depict.eq_singleton
      obtain ⟨drafts, has, depict⟩ := depicts.exists_hasMembers ["data"] (by omega)
      have values := depict "data"
      rw [hasData, ← List.map_id data.toList] at values
      have isJson : Field IsJson (drafts.valuesOf "data") data :=
        values.field fun draft value found depicts =>
          depicts.toJson_eq shallow (fits value found)
      exact ⟨some data, .present (.object has isJson), rfl⟩

theorem Depicts.isResponse (isResponse : value.IsResponse code message data)
    (fits : ∀ value ∈ data, value.Fits (depthLimit - 3))
    (depicts : Depicts 0 draft value) : draft.IsResponse code message data := by
  obtain ⟨hasStatus, isStatus, isResult⟩ := isResponse
  obtain ⟨drafts, has, depict⟩ :=
    depicts.exists_hasMembers ["status", "result"] (by decide)
  have statuses := depict "status"
  rw [hasStatus] at statuses
  obtain ⟨status, isOnly, depictsStatus⟩ := statuses.eq_singleton
  have first : Field IsStatus (drafts.valuesOf "status") (some (code, message)) :=
    isOnly ▸ .present (depictsStatus.isStatus (by decide) isStatus)
  obtain ⟨result, second, rfl⟩ :=
    (depict "result").isResult (by decide) isResult fits
  exact .object has first second

end Draft

theorem Grammar.Text.isResponseText {text : String} {value : Json} {code : Nat}
    {message : Option String} {data : Option Json}
    (isText : Grammar.Text text value)
    (isResponse : value.IsResponse code message data)
    (fits : ∀ value ∈ data, value.Fits (Draft.depthLimit - 3)) :
    IsResponseText text code message data := by
  obtain ⟨draft, depicts, isRead⟩ := isText.isRead
  exact ⟨draft, isRead, depicts.isResponse isResponse fits⟩

namespace Response

/-- How a response is judged: three codes are good, and only two of them bring the
data as records. -/
inductive Judged (code : Nat) (message : Option String) (data : Option Json) :
    Except StoreError Response → Prop
  | last {records : List Json} (isLast : code = 200) (bears : Bears data records) :
      Judged code message data (.ok ⟨records, true⟩)
  | noContent (isEmpty : code = 204) : Judged code message data (.ok ⟨[], true⟩)
  | more {records : List Json} (goesOn : code = 206) (bears : Bears data records) :
      Judged code message data (.ok ⟨records, false⟩)
  | failed (notLast : code ≠ 200) (notEmpty : code ≠ 204) (notMore : code ≠ 206) :
      Judged code message data (.error (.remote code (message.getD "")))

variable {code : Nat} {message : Option String} {data : Option Json}

theorem bears_recordsOf (data : Option Json) :
    Bears data (recordsOf (data.getD .null)) := by
  cases data with
  | none => exact .absent
  | some value =>
      cases value with
      | null => exact .null
      | array items => exact .array items
      | _ => exact .single nofun nofun

theorem ofMessage_eq_iff {answer : Except StoreError Response} :
    ofMessage ⟨⟨code, message.getD ""⟩, data.getD .null⟩ = answer ↔
      Judged code message data answer := by
  constructor
  · rintro rfl
    unfold ofMessage
    split
    next isLast => exact .last isLast (bears_recordsOf data)
    next isEmpty => exact .noContent isEmpty
    next goesOn => exact .more goesOn (bears_recordsOf data)
    next notLast notEmpty notMore => exact .failed notLast notEmpty notMore
  · rintro (⟨rfl, bears⟩ | rfl | ⟨rfl, bears⟩ | ⟨notLast, notEmpty, notMore⟩)
    · rw [← bears.recordsOf_eq]
      rfl
    · rfl
    · rw [← bears.recordsOf_eq]
      rfl
    · unfold ofMessage
      split <;> first | contradiction | rfl

/-- Of any text of a response a client makes what its code, its message and its
data alone demand: the text, its other members and the order of them all do not
matter. -/
theorem decode_eq_iff {text : String} {value : Json}
    {answer : Except StoreError Response} (isText : Grammar.Text text value)
    (isResponse : value.IsResponse code message data)
    (fits : ∀ value ∈ data, value.Fits (Draft.depthLimit - 3)) :
    decode text = answer ↔ Judged code message data answer := by
  rw [decode, (isText.isResponseText isResponse fits).decode_eq]
  exact ofMessage_eq_iff

/-- Data whose only record but null is a list itself. -/
def nestedData : Json :=
  .array [.array [.string "a"], .null]

/-- A response in another order than most, with members that nothing is made of. -/
def roundabout : Json :=
  .object [("host", .null),
    ("result", .object [("meta", .object []), ("data", nestedData)]),
    ("status", .object [("attributes", nestedData),
      ("message", .string "more to come"), ("code", .number (.int 206))])]

theorem nestedData_printed : nestedData.Printed := by
  refine .array ?_
  simp only [List.forall_mem_cons]
  exact ⟨.array (by simp [Json.Printed.string]), .null, nofun⟩

theorem roundabout_printed : roundabout.Printed := by
  have code : (Number.int 206).Printed :=
    Number.printed_int (by decide) (by decide)
  refine .object ?_
  simp only [List.forall_mem_cons]
  refine ⟨.null, .object ?_, .object ?_, nofun⟩
  · simp only [List.forall_mem_cons]
    exact ⟨.object nofun, nestedData_printed, nofun⟩
  · simp only [List.forall_mem_cons]
    exact ⟨nestedData_printed, .string, .number code, nofun⟩

theorem decode_roundabout :
    Grammar.Text roundabout.write roundabout ∧
      roundabout.IsResponse 206 (some "more to come") (some nestedData) ∧
      (∀ value ∈ some nestedData, value.Fits (Draft.depthLimit - 3)) ∧
      decode roundabout.write = .ok ⟨[.array [.string "a"], .null], false⟩ := by
  have isText := Grammar.text_write roundabout_printed
  have isResponse :
      roundabout.IsResponse 206 (some "more to come") (some nestedData) :=
    .mk rfl ⟨rfl, by decide, rfl⟩ (.object rfl)
  have fits : ∀ value ∈ some nestedData, value.Fits (Draft.depthLimit - 3) := by
    rintro _ ⟨⟩
    refine .array ?_
    simp only [List.forall_mem_cons]
    exact ⟨.array (by simp [Json.Fits.string]), .null, nofun⟩
  refine ⟨isText, isResponse, fits, ?_⟩
  exact (decode_eq_iff isText isResponse fits).mpr (.more rfl (.array _))

end Response

end GraphTable
