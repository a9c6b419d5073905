import GraphTable.Json.Reader
import GraphTable.Proofs.Entries

/-!
# Drafts of values

A draft depicts a value if all of the value is in it, in the same order.  What
depicts a value stands for it, unless arrays and objects are nested too deeply or
an object names a member twice.
-/

namespace GraphTable

namespace Draft

mutual

/-- A draft inside `depth` arrays and objects depicts a value: everything of the
value is in it, in the same order, names that stand twice among it. -/
inductive Depicts : (depth : Nat) → Draft → Json → Prop
  | null {depth : Nat} : Depicts depth .null .null
  | bool {depth : Nat} {value : Bool} : Depicts depth (.bool value) (.bool value)
  | number {depth : Nat} {numeral : Numeral} {number : Number}
      (standsFor : numeral.value? = some number) :
      Depicts depth (.number numeral) (.number number)
  | string {depth : Nat} {raw : RawString} {text : String}
      (isText : raw.text = .ok text) : Depicts depth (.string raw) (.string text)
  | array {depth : Nat} {drafts : List Draft} {items : List Json}
      (areDepicted : DepictItems (depth + 1) drafts items) :
      Depicts depth (.array (decide (depthLimit ≤ depth + 1)) drafts none)
        (.array items)
  | object {depth : Nat} {raw : List (RawString × Draft)} {members : Entries Json}
      (areDepicted : DepictMembers (depth + 1) raw members) :
      Depicts depth (.object (decide (depthLimit ≤ depth + 1)) raw .closed)
        (.object members)

/-- Drafts depict items one by one. -/
inductive DepictItems : (depth : Nat) → List Draft → List Json → Prop
  | nil {depth : Nat} : DepictItems depth [] []
  | cons {depth : Nat} {draft : Draft} {drafts : List Draft} {item : Json}
      {items : List Json} (first : Depicts depth draft item)
      (others : DepictItems depth drafts items) :
      DepictItems depth (draft :: drafts) (item :: items)

/-- Drafts under names depict members one by one. -/
inductive DepictMembers :
    (depth : Nat) → List (RawString × Draft) → Entries Json → Prop
  | nil {depth : Nat} : DepictMembers depth [] []
  | cons {depth : Nat} {rawName : RawString} {draft : Draft}
      {raw : List (RawString × Draft)} {name : String} {value : Json}
      {members : Entries Json} (isNamed : rawName.text = .ok name)
      (first : Depicts depth draft value)
      (others : DepictMembers depth raw members) :
      DepictMembers depth ((rawName, draft) :: raw) ((name, value) :: members)

end

theorem exists_eq_ok_of_map {α β : Type} {f : α → β} {first : Except Lapse α}
    {result : β} (isOk : first.map f = .ok result) :
    ∃ value, first = .ok value := by
  cases first with
  | ok value => exact ⟨value, rfl⟩
  | error lapse => cases isOk

/-- Pieces are read to their end only where nothing breaks off. -/
theorem lapse_eq_none_of_readPieces {lapse : Option Lapse} {pieces : List Piece}
    {cs : List Char} (areRead : readPieces lapse pieces = .ok cs) :
    lapse = none := by
  fun_induction readPieces lapse pieces generalizing cs with
  | case2 notBroken => exact notBroken
  | case3 c rest ih =>
      obtain ⟨_, othersRead⟩ := exists_eq_ok_of_map areRead
      exact ih othersRead
  | case5 n notLow isHigh low rest isLow ih =>
      obtain ⟨_, othersRead⟩ := exists_eq_ok_of_map areRead
      exact ih othersRead
  | case9 n rest notLow notHigh ih =>
      obtain ⟨_, othersRead⟩ := exists_eq_ok_of_map areRead
      exact ih othersRead
  | _ => cases areRead

theorem lapse_eq_none_of_text {raw : RawString} {text : String}
    (isText : raw.text = .ok text) : raw.lapse = none := by
  unfold RawString.text at isText
  cases areRead : readPieces raw.lapse raw.pieces with
  | error lapse =>
      rw [areRead] at isText
      cases isText
  | ok cs => exact lapse_eq_none_of_readPieces areRead

mutual

/-- What depicts a value has no fault. -/
theorem Depicts.fault?_eq {depth : Nat} : {draft : Draft} → {value : Json} →
    Depicts depth draft value → draft.fault? = none
  | _, _, .null => rfl
  | _, _, .bool => rfl
  | _, _, .number _ => rfl
  | _, _, .string isText => lapse_eq_none_of_text isText
  | _, _, .array areDepicted => by
      rw [fault?, areDepicted.fault?_eq]
      rfl
  | _, _, .object areDepicted => by
      rw [fault?, areDepicted.fault?_eq]
      rfl

theorem DepictItems.fault?_eq {depth : Nat} : {drafts : List Draft} →
    {items : List Json} → DepictItems depth drafts items → itemsFault? drafts = none
  | _, _, .nil => rfl
  | _, _, .cons first others => by
      rw [itemsFault?, first.fault?_eq, others.fault?_eq]
      rfl

theorem DepictMembers.fault?_eq {depth : Nat} : {raw : List (RawString × Draft)} →
    {members : Entries Json} → DepictMembers depth raw members →
      membersFault? raw = none
  | _, _, .nil => rfl
  | _, _, .cons isNamed first others => by
      rw [membersFault?, lapse_eq_none_of_text isNamed, first.fault?_eq,
        others.fault?_eq]
      rfl

end

end Draft

/-- A value in which at most `levels` arrays and objects lie inside each other,
and in which no object names a member twice. -/
inductive Json.Fits : (levels : Nat) → Json → Prop
  | null {levels : Nat} : Fits levels .null
  | bool {levels : Nat} {value : Bool} : Fits levels (.bool value)
  | number {levels : Nat} {number : Number} : Fits levels (.number number)
  | string {levels : Nat} {text : String} : Fits levels (.string text)
  | array {levels : Nat} {items : List Json}
      (fit : ∀ item ∈ items, Fits levels item) : Fits (levels + 1) (.array items)
  | object {levels : Nat} {members : Entries Json} (distinct : members.Distinct)
      (fit : ∀ member ∈ members, Fits levels member.2) :
      Fits (levels + 1) (.object members)

namespace Draft

mutual

/-- What depicts a value stands for it. -/
theorem Depicts.toJson_eq {depth levels : Nat}
    (shallow : depth + levels < depthLimit) : {draft : Draft} → {value : Json} →
      Depicts depth draft value → value.Fits levels → draft.toJson = .ok value
  | _, _, .null, _ => rfl
  | _, _, .bool, _ => rfl
  | _, _, .number standsFor, _ => by rw [toJson, standsFor]
  | _, _, .string isText, _ => by rw [toJson, isText, Except.map]
  | _, _, .array areDepicted, .array fit => by
      have notDeep : decide (depthLimit ≤ depth + 1) = false :=
        decide_eq_false (by omega)
      rw [toJson, notDeep, areDepicted.toJson_eq (by omega) fit]
      rfl
  | _, _, .object areDepicted, .object distinct fit => by
      have notDeep : decide (depthLimit ≤ depth + 1) = false :=
        decide_eq_false (by omega)
      have inserted : Entries.insertAll [] _ = _ :=
        Entries.insertAll_of_distinct distinct
      rw [toJson, notDeep, areDepicted.toJson_eq (by omega) fit]
      simp [endingFault?, inserted]

theorem DepictItems.toJson_eq {depth levels : Nat}
    (shallow : depth + levels < depthLimit) : {drafts : List Draft} →
      {items : List Json} → DepictItems depth drafts items →
        (∀ item ∈ items, item.Fits levels) → itemsToJson drafts = .ok items
  | _, _, .nil, _ => rfl
  | _, _, .cons first others, fit => by
      obtain ⟨firstFits, othersFit⟩ := List.forall_mem_cons.mp fit
      rw [itemsToJson, first.toJson_eq shallow firstFits,
        others.toJson_eq shallow othersFit]
      rfl

theorem DepictMembers.toJson_eq {depth levels : Nat}
    (shallow : depth + levels < depthLimit) : {raw : List (RawString × Draft)} →
      {members : Entries Json} → DepictMembers depth raw members →
        (∀ member ∈ members, member.2.Fits levels) →
          membersToJson raw = .ok members
  | _, _, .nil, _ => rfl
  | _, _, .cons isNamed first others, fit => by
      obtain ⟨firstFits, othersFit⟩ := List.forall_mem_cons.mp fit
      rw [membersToJson, isNamed, first.toJson_eq shallow firstFits,
        others.toJson_eq shallow othersFit]
      rfl

end

/-- Members are depicted name by name. -/
theorem DepictMembers.exists_entries {depth : Nat} :
    {raw : List (RawString × Draft)} → {members : Entries Json} →
      DepictMembers depth raw members → ∃ drafts : Entries Draft,
        raw.map (fun member => (member.1.text, member.2)) =
            drafts.map (fun member => (.ok member.1, member.2)) ∧
          (∀ member ∈ drafts, member.2.fault? = none) ∧
          ∀ name, DepictItems depth (drafts.valuesOf name) (members.valuesOf name)
  | _, _, .nil => ⟨[], rfl, nofun, fun _ => .nil⟩
  | _, _, @DepictMembers.cons _ _ draft _ name _ _ isNamed first others => by
      obtain ⟨drafts, named, sound, depict⟩ := others.exists_entries
      refine ⟨(name, draft) :: drafts, ?_, ?_, fun other => ?_⟩
      · rw [List.map_cons, List.map_cons, isNamed, named]
      · exact List.forall_mem_cons.mpr ⟨first.fault?_eq, sound⟩
      · by_cases same : name = other
        · subst same
          rw [Entries.valuesOf_cons_same, Entries.valuesOf_cons_same]
          exact .cons first (depict name)
        · rw [Entries.valuesOf_cons_other same, Entries.valuesOf_cons_other same]
          exact depict other

theorem DepictItems.eq_singleton {depth : Nat} {drafts : List Draft} {value : Json}
    (depict : DepictItems depth drafts [value]) :
    ∃ draft, drafts = [draft] ∧ Depicts depth draft value := by
  obtain _ | ⟨first, others⟩ := depict
  cases others
  exact ⟨_, rfl, first⟩

end Draft

end GraphTable
