import GraphTable.Proofs.Table.Rows

/-!
# Rows cell by cell

A record is read member by member if it is a map of properties, and for views
also if it is an object or a list that starts with one.  Its row has a cell for
each column, and what stands there is settled by the column and the members
alone: the other columns that are requested, and the place of the column among
them, have no part in it.
-/

namespace GraphTable

/-- The records that are read member by member, with their members. -/
inductive Record.HasMembers : Record → TableKind → Entries Json → Prop
  | properties {kind : TableKind} {members : Entries Json} :
      HasMembers (.properties members) kind members
  | result {members : Entries Json} :
      HasMembers (.generic (.object members)) .view members
  | listed {members : Entries Json} {rest : List Json} :
      HasMembers (.generic (.array (.object members :: rest))) .view members

theorem Record.HasMembers.wrap (kind : TableKind) (members : Entries Json) :
    (Record.wrap kind (.object members)).HasMembers kind members := by
  cases kind with
  | vertex => exact .properties
  | edge => exact .properties
  | view => exact .result

/-- The row that a projector gives to every record with these members. -/
def Projector.Gives (projector : Projector) (members : Entries Json)
    (row : Row) : Prop :=
  ∀ record : Record, record.HasMembers projector.kind members →
    projector.project? record = some row

namespace Projector

variable {columns : List Column} {kind : TableKind} {options : MatchOptions}
  {members others : Entries Json} {row : Row} {item : Json}

theorem project?_of_hasMembers {record : Record}
    (hasMembers : record.HasMembers kind members) :
    (build columns kind options).project? record =
      some ((build columns kind options).ofMembers members) := by
  cases hasMembers with
  | properties => rfl
  | result => rfl
  | listed => rfl

/-- Exactly one row is given: the one with the value of each column. -/
theorem gives_iff :
    (build columns kind options).Gives members row ↔
      row = ⟨columns.map fun column =>
        (column.name, column.value kind options members)⟩ := by
  rw [← ofMembers_eq]
  constructor
  · intro gives
    have given := gives (.wrap kind (.object members)) (.wrap kind members)
    rw [project?_object] at given
    exact (Option.some.inj given).symm
  · rintro rfl record hasMembers
    exact project?_of_hasMembers hasMembers

theorem gives_values (columns : List Column) (kind : TableKind)
    (options : MatchOptions) (members : Entries Json) :
    (build columns kind options).Gives members ⟨columns.map fun column =>
      (column.name, column.value kind options members)⟩ :=
  gives_iff.mpr rfl

/-- Records that show the same in all columns have the same row. -/
theorem Gives.congr (gives : (build columns kind options).Gives members row)
    (same : ∀ column ∈ columns, column.value kind options others =
      column.value kind options members) :
    (build columns kind options).Gives others row := by
  rw [gives_iff] at gives ⊢
  rw [gives, Row.mk.injEq, List.map_inj_left]
  intro column mem
  rw [same column mem]

theorem ofResult?_of_plain {projector : Projector} (notNull : item ≠ .null)
    (noObject : ∀ members, item ≠ .object members) :
    projector.ofResult? item = projector.ofPlain? item := by
  cases item with
  | null => exact absurd rfl notNull
  | object members => exact absurd rfl (noObject members)
  | _ => rfl

/-- Each column has a value of its own, which it shows in whatever list of columns
it is requested, and so the row for two lists of columns one after the other is
the row for the first followed by the row for the second.  A plain result of a
view has a row exactly if there is one column, which shows this result. -/
theorem columns_independent (kind : TableKind) (options : MatchOptions) :
    (∀ members : Entries Json,
      (∃ value : Column → Json, ∀ columns : List Column,
        (build columns kind options).Gives members
          ⟨columns.map fun column => (column.name, value column)⟩) ∧
      ∀ first second : List Column, ∃ firstRow secondRow,
        (build first kind options).Gives members firstRow ∧
        (build second kind options).Gives members secondRow ∧
        (build (first ++ second) kind options).Gives members
          ⟨firstRow.cells ++ secondRow.cells⟩) ∧
    ∀ (value item : Json), value.standing? = some item → item ≠ .null →
      (∀ members, item ≠ .object members) →
      ∀ (columns : List Column) (row : Row),
        (build columns .view options).project? (.wrap .view value) =
            some row ↔
          ∃ column, columns = [column] ∧ row = ⟨[(column.name, item)]⟩ := by
  refine ⟨fun members => ⟨⟨fun column => column.value kind options members,
    fun columns => gives_values columns kind options members⟩, ?_⟩, ?_⟩
  · intro first second
    refine ⟨_, _, gives_values first kind options members,
      gives_values second kind options members, ?_⟩
    rw [gives_iff, List.map_append]
  · intro value item stands notNull noObject columns row
    rw [project?_view, stands, Option.bind_some,
      ofResult?_of_plain notNull noObject, ofPlain?_eq_some_iff]

end Projector

end GraphTable
