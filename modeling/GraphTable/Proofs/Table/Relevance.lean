import Mathlib.Data.List.Forall2
import GraphTable.Proofs.Table.Cells
import GraphTable.Proofs.Table.Search

/-!
# What a row depends on

A row shows nothing of the entries whose names are neither alike to the name of a
column nor among those that describe the identity of an element.  Of the ends of
an edge it shows the identifiers alone, whatever else is told of them.
-/

namespace GraphTable

/-- The names of the entries that a row with these columns may depend on. -/
def Relevant (columns : List Column) (name : String) : Prop :=
  (∃ column ∈ columns, Text.lower name = Text.lower column.name) ∨
    name ∈ TableKind.identityKeys

/-- Entries that differ at most in what is told of an end of an edge beside its
identifier. -/
inductive EdgeEnd.Redescribed : String × Json → String × Json → Prop
  | same (entry : String × Json) : Redescribed entry entry
  | described (side : EdgeEnd) {content other : Entries Json}
      (sameId : Entries.lookup? "id" other = Entries.lookup? "id" content) :
      Redescribed (side.key, .object content) (side.key, .object other)

namespace EdgeEnd

variable {members others : Entries Json}

theorem filter_redescribed {keep : String → Bool}
    (apart : ∀ side : EdgeEnd, keep side.key = false)
    (redescribed : List.Forall₂ Redescribed members others) :
    others.filter (fun entry => keep entry.1) =
      members.filter fun entry => keep entry.1 := by
  induction redescribed with
  | nil => rfl
  | cons first _ ih =>
      cases first with
      | same => rw [List.filter_cons, List.filter_cons, ih]
      | described side sameId =>
          simp [apart side, ih]

theorem endpoint_redescribed
    (redescribed : List.Forall₂ Redescribed members others) (key : String) :
    (Entries.lookup? key others).bind (Json.member? "id") =
      (Entries.lookup? key members).bind (Json.member? "id") := by
  induction redescribed with
  | nil => rfl
  | @cons entry _ _ _ first _ ih =>
      cases first with
      | same =>
          obtain ⟨name, value⟩ := entry
          by_cases found : name = key
          · rw [Entries.lookup?, Entries.lookup?, if_pos found, if_pos found]
          · rw [Entries.lookup?, Entries.lookup?, if_neg found, if_neg found, ih]
      | described side sameId =>
          by_cases found : side.key = key
          · rw [Entries.lookup?, Entries.lookup?, if_pos found, if_pos found]
            exact sameId
          · rw [Entries.lookup?, Entries.lookup?, if_neg found, if_neg found, ih]

/-- A search for a name that is not alike to that of an end does not meet what is
told of the ends. -/
theorem findMember?_redescribed {name : String} (ignoreCase : Bool)
    (apart : ∀ side : EdgeEnd, Text.lower side.key ≠ Text.lower name)
    (redescribed : List.Forall₂ Redescribed members others) :
    findMember? name ignoreCase others = findMember? name ignoreCase members := by
  have endsLeftOut : ∀ side : EdgeEnd,
      Text.sameIgnoringCase side.key name = false := by
    intro side
    rw [Bool.eq_false_iff]
    exact fun alike => apart side (Text.sameIgnoringCase_iff.mp alike)
  have sameAlike : others.filter (fun entry =>
        Text.sameIgnoringCase entry.1 name) =
      members.filter fun entry => Text.sameIgnoringCase entry.1 name :=
    @filter_redescribed _ _ (Text.sameIgnoringCase · name) endsLeftOut
      redescribed
  rw [← findMember?_alike others, sameAlike, findMember?_alike]

theorem lookup?_redescribed {name : String}
    (apart : ∀ side : EdgeEnd, Text.lower side.key ≠ Text.lower name)
    (redescribed : List.Forall₂ Redescribed members others) :
    Entries.lookup? name others = Entries.lookup? name members := by
  rw [← findMember?_exact, ← findMember?_exact]
  exact findMember?_redescribed false apart redescribed

theorem identityMember?_redescribed
    (redescribed : List.Forall₂ Redescribed members others) (name : String) :
    TableKind.identityMember? others name =
      TableKind.identityMember? members name := by
  unfold TableKind.identityMember?
  split
  · refine lookup?_redescribed (fun side => ?_) redescribed
    cases side <;> decide
  · refine lookup?_redescribed (fun side => ?_) redescribed
    cases side <;> decide
  · exact endpoint_redescribed redescribed "IN"
  · exact endpoint_redescribed redescribed "OUT"
  · rfl

end EdgeEnd

namespace Column

variable {members others : Entries Json}

/-- A column of an edge that could meet the description of an end shows the
identifier of this end. -/
theorem value_redescribed (column : Column) (options : MatchOptions)
    (redescribed : List.Forall₂ EdgeEnd.Redescribed members others) :
    column.value .edge options others = column.value .edge options members := by
  apply value_congr
  · intro isIdentity
    exact EdgeEnd.identityMember?_redescribed redescribed _
  · intro notIdentity
    apply EdgeEnd.findMember?_redescribed _ _ redescribed
    intro side alike
    have isIdentity : Text.lower side.key ∈ TableKind.edge.identityNames := by
      cases side <;> decide
    exact notIdentity (alike ▸ isIdentity)

theorem value_filter {column : Column} {columns : List Column}
    {keep : String × Json → Bool} (kind : TableKind) (options : MatchOptions)
    (requested : column ∈ columns)
    (kept : ∀ entry ∈ members, Relevant columns entry.1 → keep entry = true) :
    column.value kind options (members.filter keep) =
      column.value kind options members := by
  apply value_congr
  · intro isIdentity
    apply TableKind.identityMember?_congr
    intro key isKey
    apply Entries.lookup?_filter
    rintro entry mem rfl
    exact kept entry mem (.inr isKey)
  · intro notIdentity
    apply findMember?_filter
    intro entry mem alike
    exact kept entry mem (.inl ⟨column, requested, alike⟩)

end Column

namespace Projector

/-- The row of a record stays the same where entries are left out whose names are
neither alike to that of a requested column nor among `id`, `label`, `IN` and
`OUT`, and for edges also where anything but the identifier changes in the
objects that describe their ends. -/
theorem irrelevant_immaterial (columns : List Column) (kind : TableKind)
    (options : MatchOptions) (members : Entries Json) :
    ∃ row, (build columns kind options).Gives members row ∧
      (∀ keep : String × Json → Bool,
        (∀ entry ∈ members, keep entry = false →
          ¬Relevant columns entry.1) →
        (build columns kind options).Gives (members.filter keep) row) ∧
      (kind = .edge →
        ∀ others, List.Forall₂ EdgeEnd.Redescribed members others →
          (build columns kind options).Gives others row) := by
  have given := gives_values columns kind options members
  refine ⟨_, given, ?_, ?_⟩
  · intro keep irrelevant
    have kept : ∀ entry ∈ members, Relevant columns entry.1 →
        keep entry = true := by
      intro entry mem relevant
      by_contra leftOut
      exact irrelevant entry mem (Bool.eq_false_iff.mpr leftOut) relevant
    apply given.congr
    intro column requested
    exact Column.value_filter kind options requested kept
  · rintro rfl others redescribed
    apply given.congr
    intro column _
    exact column.value_redescribed options redescribed

end Projector

end GraphTable
