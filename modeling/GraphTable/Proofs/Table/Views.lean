import GraphTable.Proofs.Table.Cells
import GraphTable.Proofs.Table.Search

/-!
# Results of views

A result of a view may be a map of properties, a value, or a list around a
value.  All of these are read through the one value that the record stands for,
so that it makes no difference on which way this value came.  Only the list
around a value is taken away: a list that stands for a row is shown as it is,
whatever the type of its column.
-/

namespace GraphTable

/-- The value that a record stands for in a view: a map of properties stands for
an object, a list for its first item, and any other value for itself. -/
inductive Record.StandsFor : Record → Json → Prop
  | properties (members : Entries Json) :
      StandsFor (.properties members) (.object members)
  | itself {value : Json} (notList : ∀ items, value ≠ .array items) :
      StandsFor (.generic value) value
  | first (item : Json) (rest : List Json) :
      StandsFor (.generic (.array (item :: rest))) item

/-- A column of a view shows the member with exactly its name. -/
theorem Column.value_view (column : Column) (options : MatchOptions)
    (members : Entries Json) :
    column.value .view options members =
      ((Entries.lookup? column.name members).map
        column.type.unwrapped).getD .null := by
  have notIdentity :
      Text.lower column.name ∉ TableKind.view.identityNames :=
    List.not_mem_nil
  rw [value_of_property notIdentity, TableKind.ignoresCase, findMember?_exact]
  rfl

namespace Projector

variable {columns : List Column} {options : MatchOptions}

/-- The row of a record is that of the value that it stands for. -/
theorem project?_of_standsFor {record : Record} {value : Json}
    (stands : record.StandsFor value) :
    (build columns .view options).project? record =
      (build columns .view options).ofResult? value := by
  cases stands with
  | properties members => rfl
  | first item rest => rfl
  | itself notList =>
      cases value with
      | array items => exact absurd rfl (notList items)
      | _ => rfl

/-- A map of properties, an object and a list that starts with it have the same
row; a value that is no list has the row of every list that starts with it; and
of a list that starts with a list one level is taken away, so that it has a row
exactly if there is one column, which shows this list as it is. -/
theorem views_agree (columns : List Column) (options : MatchOptions) :
    (∀ members : Entries Json, ∃ row : Row,
      row.cells = columns.map (fun column =>
        (column.name, ((Entries.lookup? column.name members).map
          column.type.unwrapped).getD .null)) ∧
      (build columns .view options).project? (.properties members) =
        some row ∧
      (build columns .view options).project? (.generic (.object members)) =
        some row ∧
      ∀ rest, (build columns .view options).project?
        (.generic (.array (.object members :: rest))) = some row) ∧
    (∀ (value : Json) (rest : List Json), (∀ items, value ≠ .array items) →
      (build columns .view options).project?
          (.generic (.array (value :: rest))) =
        (build columns .view options).project? (.generic value)) ∧
    ∀ (items rest : List Json) (row : Row),
      (build columns .view options).project?
          (.generic (.array (.array items :: rest))) = some row ↔
        ∃ column, columns = [column] ∧
          row = ⟨[(column.name, .array items)]⟩ := by
  refine ⟨fun members => ?_, fun value rest notList => ?_,
    fun items rest row => ?_⟩
  · have shown : (build columns .view options).ofResult? (.object members) =
        some ((build columns .view options).ofMembers members) :=
      rfl
    have noList : ∀ items, Json.object members ≠ .array items :=
      fun items same => nomatch same
    refine ⟨_, ?_, (project?_of_standsFor (.properties members)).trans shown,
      (project?_of_standsFor (.itself noList)).trans shown,
      fun rest => (project?_of_standsFor (.first _ rest)).trans shown⟩
    simp only [ofMembers_eq, Column.value_view]
  · rw [project?_of_standsFor (.first value rest),
      project?_of_standsFor (.itself notList)]
  · have notNull : Json.array items ≠ .null := fun same => nomatch same
    have noObject : ∀ members, Json.array items ≠ .object members :=
      fun members same => nomatch same
    rw [project?_of_standsFor (.first _ rest),
      ofResult?_of_plain notNull noObject, ofPlain?_eq_some_iff]

/-- A list is taken off a value, and off an entry of a column that holds no
lists, but never both off the same. -/
example : ((build [⟨"name", .utf8⟩] .view {}).project?
        (.generic (.array [.array [.bool true]]))) =
      some ⟨[("name", .array [.bool true])]⟩ ∧
    ((build [⟨"name", .utf8⟩] .view {}).project?
        (.generic (.array [.object [("name", .array [.bool true])]]))) =
      some ⟨[("name", .bool true)]⟩ :=
  ⟨rfl, rfl⟩

end Projector

end GraphTable
