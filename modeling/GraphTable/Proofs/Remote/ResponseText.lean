import GraphTable.Proofs.Entries
import GraphTable.Remote.Response

/-!
# Texts of responses

A response is written as a record that holds other records.  The members of a
record come in any order, among members of other names; a record may also be
written as the list of its fields.  All that a client makes of such a text is
its code, its message and its data.
-/

namespace GraphTable

/-- What is found of a field: nothing where it is left out, and one value where
it is not. -/
inductive Field {α : Type} (Is : Draft → α → Prop) :
    List Draft → Option α → Prop
  | absent : Field Is [] none
  | present {draft : Draft} {value : α} (is : Is draft value) :
      Field Is [draft] (some value)

/-- An object with these members.  Those whose names are not known are only
passed over, and need not make sense. -/
def Draft.HasMembers (known : List String) (draft : Draft)
    (members : Entries Draft) : Prop :=
  ∃ raw : List (RawString × Draft),
    draft = .object false raw .closed ∧
    raw.map (fun member => (member.1.text, member.2)) =
      members.map (fun member => (.ok member.1, member.2)) ∧
    ∀ member ∈ members, member.1 ∉ known → member.2.fault? = none

theorem Draft.HasMembers.passed {known : List String} {draft : Draft}
    {members : Entries Draft} (has : draft.HasMembers known members) :
    ∀ member ∈ members, member.1 ∉ known → member.2.fault? = none := by
  obtain ⟨raw, -, -, passed⟩ := has
  exact passed

/-- Give a value only if its name has been seen. -/
def Entries.seen {α β : Type} (name : String) (value : Option β)
    (members : Entries α) : Option β :=
  if members.valuesOf name = [] then none else value

namespace Entries

variable {α β : Type} {name other : String} {value : α}

theorem seen_of_unseen {members : Entries α}
    (unseen : members.valuesOf name = [])
    (found : Option β) : members.seen name found = none := by
  rw [seen, if_pos unseen]

theorem seen_same (found : Option β) (members : Entries α) :
    seen name found (members ++ [(name, value)]) = found := by
  simp [seen, valuesOf_append, valuesOf_cons_same]

theorem seen_other (differ : other ≠ name) (found : Option β)
    (members : Entries α) :
    seen name found (members ++ [(other, value)]) =
      seen name found members := by
  have none : valuesOf name ([] : Entries α) = [] := rfl
  rw [seen, seen, valuesOf_append, valuesOf_cons_other differ, none,
    List.append_nil]

end Entries

namespace Field

variable {α : Type} {Is : Draft → α → Prop} {name : String} {found : Option α}
  {members : Entries Draft}

theorem seen_eq {β : Type} {value : Option β}
    (field : Field Is (members.valuesOf name) found)
    (absent : found = none → value = none) :
    members.seen name value = value := by
  unfold Entries.seen
  generalize members.valuesOf name = drafts at field
  cases field with
  | absent => exact (absent rfl).symm
  | present is => rfl

/-- Where a member of the name stands, it is the only one. -/
theorem here {before after : Entries Draft} {draft : Draft}
    (field : Field Is
      (Entries.valuesOf name (before ++ (name, draft) :: after)) found) :
    before.valuesOf name = [] ∧
      ∃ value, found = some value ∧ Is draft value := by
  rw [Entries.valuesOf_append, Entries.valuesOf_cons_same] at field
  generalize before.valuesOf name = first at field ⊢
  generalize after.valuesOf name = last at field
  cases first with
  | nil =>
      cases last with
      | nil =>
          cases field with
          | present is => exact ⟨rfl, _, rfl, is⟩
      | cons => cases field
  | cons head tail =>
      cases tail <;> cases field

end Field

namespace RecordShape

variable {σ α : Type} {shape : RecordShape (Except Fault) Draft σ α}

/-- Put a value into the slot of a name. -/
def put (shape : RecordShape (Except Fault) Draft σ α) (filled : σ)
    (name : String) (value : Draft) : Except Fault σ :=
  match shape.slots.find? (·.name == name) with
  | none => (Draft.endOf value.fault?).map fun _ => filled
  | some slot =>
      if slot.isFilled filled then
        .error (.mismatch (.duplicateField name))
      else slot.fill filled value

theorem put_of_known {slot : Slot (Except Fault) Draft σ} {filled next : σ}
    {name : String} {value : Draft}
    (known : shape.slots.find? (·.name == name) = some slot)
    (empty : slot.isFilled filled = false)
    (fills : slot.fill filled value = .ok next) :
    shape.put filled name value = .ok next := by
  simp only [put, known, empty, fills, Bool.false_eq_true, if_false]

theorem put_of_unknown {name : String} {value : Draft} (filled : σ)
    (unknown : shape.slots.find? (·.name == name) = none)
    (passed : value.fault? = none) :
    shape.put filled name value = .ok filled := by
  simp only [put, unknown, passed]
  rfl

theorem place_eq_put {raw : RawString} {name : String}
    (named : raw.text = .ok name) (filled : σ) (value : Draft) :
    shape.place filled (.string raw, value) = shape.put filled name value := by
  have isNamed : (Medium.string (Draft.string raw) : Except Fault String) =
      .ok name := by
    change Draft.lift raw.text = .ok name
    rw [named]
    rfl
  unfold place put
  simp only [isNamed, bind, Except.bind]
  cases shape.slots.find? (·.name == name) with
  | none =>
      have passed : (Medium.skip value : Except Fault Unit) =
          Draft.endOf value.fault? :=
        rfl
      simp only [passed]
      cases Draft.endOf value.fault? <;> rfl
  | some slot => rfl

/-- An object is read member by member: `expected` gives what is filled once
some members have been seen. -/
theorem read_of_hasMembers {known : List String} {draft : Draft}
    {members : Entries Draft} (has : draft.HasMembers known members)
    (expected : Entries Draft → σ) (blank : expected [] = shape.blank)
    (step : ∀ before name value after,
      members = before ++ (name, value) :: after →
        shape.put (expected before) name value =
          .ok (expected (before ++ [(name, value)]))) :
    shape.read draft = shape.build (expected members) := by
  obtain ⟨raw, rfl, named, -⟩ := has
  have filled : ∀ (before after : Entries Draft)
      (rest : List (RawString × Draft)), members = before ++ after →
      rest.map (fun member => (member.1.text, member.2)) =
        after.map (fun member => (.ok member.1, member.2)) →
      (rest.map fun member => (Draft.string member.1, member.2)).foldlM
        shape.place (expected before) = .ok (expected members) := by
    intro before after rest split same
    induction after generalizing before rest with
    | nil =>
        obtain rfl := List.map_eq_nil_iff.mp same
        rw [split, List.append_nil]
        rfl
    | cons member after ih =>
        obtain ⟨⟨rawName, value⟩, rest, rfl, first, others⟩ :=
          List.map_eq_cons_iff.mp same
        obtain ⟨isNamed, rfl⟩ := Prod.mk.inj first
        rw [List.map_cons, List.foldlM_cons, place_eq_put isNamed,
          step before _ _ after split]
        refine ih _ rest ?_ others
        rw [split, List.append_assoc]
        rfl
  have all := filled [] members raw rfl named
  rw [blank] at all
  change ((raw.map fun member => (Draft.string member.1, member.2)).foldlM
    shape.place shape.blank >>= _) = _
  rw [all]
  change MonadExcept.ofExcept (shape.build (expected members)) = _
  cases shape.build (expected members) <;> rfl

end RecordShape

namespace Draft

/-- A numeral of sixteen bits. -/
inductive IsCode : Draft → Nat → Prop
  | mk {numeral : Numeral} {code : Nat}
      (value : numeral.value? = some (.int code))
      (small : code < Word.limit 16) :
      IsCode (.number numeral) code

/-- A string that makes sense. -/
inductive IsText : Draft → String → Prop
  | mk {raw : RawString} {text : String} (value : raw.text = .ok text) :
      IsText (.string raw) text

/-- Any value that makes sense. -/
def IsJson (draft : Draft) (value : Json) : Prop :=
  draft.toJson = .ok value

/-- A status with a code, and with a message unless it is left out. -/
inductive IsStatus : Draft → Nat × Option String → Prop
  | object {draft : Draft} {members : Entries Draft} {code : Nat}
      {message : Option String}
      (has : draft.HasMembers ["code", "message"] members)
      (hasCode : Field IsCode (members.valuesOf "code") (some code))
      (hasMessage : Field IsText (members.valuesOf "message") message) :
      IsStatus draft (code, message)
  | list {first : Draft} {others : List Draft} {code : Nat}
      {message : Option String} (hasCode : first.IsCode code)
      (hasMessage : Field IsText others message) :
      IsStatus (.array false (first :: others) none) (code, message)

/-- A result with data, unless they are left out. -/
inductive IsResult : Draft → Option Json → Prop
  | object {draft : Draft} {members : Entries Draft} {data : Option Json}
      (has : draft.HasMembers ["data"] members)
      (hasData : Field IsJson (members.valuesOf "data") data) :
      IsResult draft data
  | list {items : List Draft} {data : Option Json}
      (hasData : Field IsJson items data) :
      IsResult (.array false items none) data

/-- A response with a code, a message and data.  Data are left out together with
the result. -/
inductive IsResponse : Draft → Nat → Option String → Option Json → Prop
  | object {draft : Draft} {members : Entries Draft} {code : Nat}
      {message : Option String} {result : Option (Option Json)}
      (has : draft.HasMembers ["status", "result"] members)
      (hasStatus :
        Field IsStatus (members.valuesOf "status") (some (code, message)))
      (hasResult : Field IsResult (members.valuesOf "result") result) :
      IsResponse draft code message result.join
  | list {first : Draft} {others : List Draft} {code : Nat}
      {message : Option String} {result : Option (Option Json)}
      (hasStatus : first.IsStatus (code, message))
      (hasResult : Field IsResult others result) :
      IsResponse (.array false (first :: others) none) code message result.join

theorem IsCode.read {draft : Draft} {code : Nat} (is : draft.IsCode code) :
    (Medium.natural (Word.limit 16) "u16" draft : Except Fault Nat) =
      .ok code := by
  obtain @⟨numeral, code, value, small⟩ := is
  change natural (Word.limit 16) "u16" (.number numeral) = .ok code
  have bounds : (0 : Int) ≤ code ∧ (code : Int) < Word.limit 16 := by omega
  simp only [natural, value, if_pos bounds, Int.toNat_natCast]

theorem IsText.read {draft : Draft} {text : String} (is : draft.IsText text) :
    (Medium.string draft : Except Fault String) = .ok text := by
  obtain @⟨raw, text, value⟩ := is
  change lift raw.text = .ok text
  rw [value]
  rfl

theorem IsJson.read {draft : Draft} {value : Json} (is : draft.IsJson value) :
    (Medium.json draft : Except Fault Json) = .ok value := by
  change lift draft.toJson = .ok value
  rw [is]
  rfl

/-- A status is read from its members. -/
theorem HasMembers.readStatus {draft : Draft} {members : Entries Draft}
    {code : Nat} {message : Option String}
    (has : draft.HasMembers ["code", "message"] members)
    (hasCode : Field IsCode (members.valuesOf "code") (some code))
    (hasMessage : Field IsText (members.valuesOf "message") message) :
    ResponseStatus.shape.read draft =
      (.ok ⟨code, message.getD ""⟩ : Except Fault ResponseStatus) := by
  let expected (seen : Entries Draft) : ResponseStatusSlots :=
    ⟨seen.seen "code" (some code), seen.seen "message" message⟩
  have step : ∀ before name value after,
      members = before ++ (name, value) :: after →
        ResponseStatus.shape.put (expected before) name value =
          .ok (expected (before ++ [(name, value)])) := by
    intro before name value after split
    by_cases isCode : name = "code"
    · subst isCode split
      obtain ⟨unseen, _, same, isCode⟩ := hasCode.here
      cases same
      refine RecordShape.put_of_known rfl (by
        simp only [expected, Entries.seen_of_unseen unseen]
        rfl) ?_
      simp only [isCode.read, expected, Entries.seen_same,
        Entries.seen_other (show "code" ≠ "message" by decide)]
      rfl
    · by_cases isMessage : name = "message"
      · subst isMessage split
        obtain ⟨unseen, text, rfl, isText⟩ := hasMessage.here
        refine RecordShape.put_of_known rfl (by
        simp only [expected, Entries.seen_of_unseen unseen]
        rfl) ?_
        simp only [isText.read, expected, Entries.seen_same,
          Entries.seen_other (show "message" ≠ "code" by decide)]
        rfl
      · simp only [expected, Entries.seen_other isCode,
          Entries.seen_other isMessage]
        refine RecordShape.put_of_unknown _ ?_
          (has.passed (name, value) (by simp [split])
            (by simp [isCode, isMessage]))
        simp [ResponseStatus.shape, Ne.symm isCode, Ne.symm isMessage]
  rw [RecordShape.read_of_hasMembers has expected rfl step]
  simp only [expected, hasCode.seen_eq (fun none => nomatch none),
    hasMessage.seen_eq id]
  rfl

theorem IsStatus.read {draft : Draft} {code : Nat} {message : Option String}
    (is : draft.IsStatus (code, message)) :
    ResponseStatus.shape.read draft =
      (.ok ⟨code, message.getD ""⟩ : Except Fault ResponseStatus) := by
  cases is with
  | object has hasCode hasMessage => exact has.readStatus hasCode hasMessage
  | @list first others code message hasCode hasMessage =>
      change (RecordShape.fillInOrder ResponseStatus.shape (.ok ()) 0 _
        (first :: others) _ >>= _) = _
      simp only [RecordShape.fillInOrder, ResponseStatus.shape, hasCode.read]
      cases hasMessage with
      | absent => rfl
      | present isText =>
          simp only [RecordShape.fillInOrder, isText.read]
          rfl

/-- A result is read from its members. -/
theorem HasMembers.readResult {draft : Draft} {members : Entries Draft}
    {data : Option Json} (has : draft.HasMembers ["data"] members)
    (hasData : Field IsJson (members.valuesOf "data") data) :
    ResponseMessage.resultShape.read draft =
      (.ok (data.getD .null) : Except Fault Json) := by
  have step : ∀ before name value after,
      members = before ++ (name, value) :: after →
        ResponseMessage.resultShape.put (Entries.seen "data" data before) name
            value =
          .ok (Entries.seen "data" data (before ++ [(name, value)])) := by
    intro before name value after split
    by_cases isData : name = "data"
    · subst isData split
      obtain ⟨unseen, item, rfl, isJson⟩ := hasData.here
      refine RecordShape.put_of_known rfl (by
        rw [Entries.seen_of_unseen unseen]
        rfl) ?_
      simp only [isJson.read, Entries.seen_same]
      rfl
    · rw [Entries.seen_other isData]
      refine RecordShape.put_of_unknown _ ?_
        (has.passed (name, value) (by simp [split]) (by simp [isData]))
      simp [ResponseMessage.resultShape, Ne.symm isData]
  rw [RecordShape.read_of_hasMembers has _ rfl step,
    hasData.seen_eq id]
  rfl

theorem IsResult.read {draft : Draft} {data : Option Json}
    (is : draft.IsResult data) :
    ResponseMessage.resultShape.read draft =
      (.ok (data.getD .null) : Except Fault Json) := by
  cases is with
  | object has hasData => exact has.readResult hasData
  | @list items data hasData =>
      change (RecordShape.fillInOrder ResponseMessage.resultShape (.ok ()) 0 _
        items _ >>= _) = _
      cases hasData with
      | absent => rfl
      | present isJson =>
          simp only [RecordShape.fillInOrder, ResponseMessage.resultShape,
            isJson.read]
          rfl

/-- A response is read from its members. -/
theorem HasMembers.readResponse {draft : Draft} {members : Entries Draft}
    {code : Nat} {message : Option String} {result : Option (Option Json)}
    (has : draft.HasMembers ["status", "result"] members)
    (hasStatus :
      Field IsStatus (members.valuesOf "status") (some (code, message)))
    (hasResult : Field IsResult (members.valuesOf "result") result) :
    ResponseMessage.shape.read draft =
      (.ok ⟨⟨code, message.getD ""⟩, result.join.getD .null⟩ :
        Except Fault ResponseMessage) := by
  let data := result.map fun data => data.getD .null
  let expected (seen : Entries Draft) : ResponseMessageSlots :=
    ⟨seen.seen "status" (some ⟨code, message.getD ""⟩),
      seen.seen "result" data⟩
  have step : ∀ before name value after,
      members = before ++ (name, value) :: after →
        ResponseMessage.shape.put (expected before) name value =
          .ok (expected (before ++ [(name, value)])) := by
    intro before name value after split
    by_cases isStatus : name = "status"
    · subst isStatus split
      obtain ⟨unseen, _, same, isStatus⟩ := hasStatus.here
      cases same
      refine RecordShape.put_of_known rfl (by
        simp only [expected, Entries.seen_of_unseen unseen]
        rfl) ?_
      simp only [isStatus.read, expected, Entries.seen_same,
        Entries.seen_other (show "status" ≠ "result" by decide)]
      rfl
    · by_cases isResult : name = "result"
      · subst isResult split
        obtain ⟨unseen, item, rfl, isResult⟩ := hasResult.here
        refine RecordShape.put_of_known rfl (by
          simp only [expected, Entries.seen_of_unseen unseen]
          rfl) ?_
        simp only [isResult.read, expected, Entries.seen_same,
          Entries.seen_other (show "result" ≠ "status" by decide)]
        rfl
      · simp only [expected, Entries.seen_other isStatus,
          Entries.seen_other isResult]
        refine RecordShape.put_of_unknown _ ?_
          (has.passed (name, value) (by simp [split])
            (by simp [isStatus, isResult]))
        simp [ResponseMessage.shape, Ne.symm isStatus, Ne.symm isResult]
  have noData : result = none → data = none := by
    intro none
    simp only [data, none, Option.map_none]
  rw [RecordShape.read_of_hasMembers has expected rfl step]
  simp only [expected, hasStatus.seen_eq (fun none => nomatch none),
    hasResult.seen_eq noData]
  cases result <;> rfl

theorem IsResponse.read {draft : Draft} {code : Nat} {message : Option String}
    {data : Option Json} (is : draft.IsResponse code message data) :
    ResponseMessage.shape.read draft =
      (.ok ⟨⟨code, message.getD ""⟩, data.getD .null⟩ :
        Except Fault ResponseMessage) := by
  cases is with
  | object has hasStatus hasResult => exact has.readResponse hasStatus hasResult
  | @list first others code message result hasStatus hasResult =>
      change (RecordShape.fillInOrder ResponseMessage.shape (.ok ()) 0 _
        (first :: others) _ >>= _) = _
      simp only [RecordShape.fillInOrder, ResponseMessage.shape, hasStatus.read]
      cases hasResult with
      | absent => rfl
      | present isResult =>
          simp only [RecordShape.fillInOrder, isResult.read]
          rfl

end Draft

/-- A string without escapes. -/
def RawString.written (text : String) : RawString :=
  ⟨text.toList.map .char, none⟩

theorem RawString.written_text (content : String) :
    (written content).text = .ok content := by
  have readAll : ∀ chars : List Char,
      readPieces none (chars.map .char) = .ok chars := by
    intro chars
    induction chars with
    | nil => rfl
    | cons c chars ih => simp [readPieces, ih, Except.map]
  simp [text, written, readAll, Except.map]

namespace Draft

/-- An object whose names are without escapes. -/
def ofMembers (members : Entries Draft) : Draft :=
  .object false (members.map fun member => (.written member.1, member.2)) .closed

theorem ofMembers_hasMembers {known : List String} {members : Entries Draft}
    (sound : ∀ member ∈ members, member.1 ∉ known → member.2.fault? = none) :
    (ofMembers members).HasMembers known members :=
  ⟨_, rfl, by simp [RawString.written_text], sound⟩

/-- A response with a code and with data. -/
def response (digits : List Nat) (data : Draft) : Draft :=
  ofMembers
    [("status", ofMembers [("code", .number ⟨false, digits, none, none⟩)]),
      ("result", ofMembers [("data", data)])]

theorem response_isResponse {digits : List Nat} {code : Nat} {draft : Draft}
    {data : Json}
    (isCode : (Numeral.mk false digits none none).value? = some (.int code))
    (small : code < Word.limit 16) (isData : draft.toJson = .ok data) :
    (response digits draft).IsResponse code none (some data) := by
  have status : IsStatus
      (ofMembers [("code", .number ⟨false, digits, none, none⟩)])
      (code, none) :=
    .object (ofMembers_hasMembers (by simp)) (.present (.mk isCode small)) .absent
  have result : IsResult (ofMembers [("data", draft)]) (some data) :=
    .object (ofMembers_hasMembers (by simp)) (.present isData)
  have both : (response digits draft).HasMembers ["status", "result"]
      [("status", _), ("result", _)] :=
    ofMembers_hasMembers (by simp)
  exact .object both (.present status) (.present result)

end Draft

/-- A text that is a response with a code, and with a message and data unless
they are left out. -/
def IsResponseText (text : String) (code : Nat) (message : Option String)
    (data : Option Json) : Prop :=
  ∃ draft, Draft.read text = (draft, none) ∧
    draft.IsResponse code message data

theorem IsResponseText.decode_eq {text : String} {code : Nat}
    {message : Option String} {data : Option Json}
    (is : IsResponseText text code message data) :
    Draft.decode ResponseMessage.shape.read text =
      .ok ⟨⟨code, message.getD ""⟩, data.getD .null⟩ := by
  obtain ⟨draft, read, response⟩ := is
  rw [Draft.decode, read]
  simp only [response.read]

end GraphTable
