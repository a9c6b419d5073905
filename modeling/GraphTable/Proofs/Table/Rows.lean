import GraphTable.Proofs.Entries
import GraphTable.Proofs.Table.Columns

/-!
# Rows of records

Whether a record has a row depends on the form of the record and on the number
of the columns alone: no entry of a record, whatever it holds or lacks, takes
the row away.  A row has a cell for each column, in order, and a name stands for
the first cell that has it.
-/

namespace GraphTable

/-- What stands for a result of a view: the first item of a list, and any other
value itself. -/
def Json.standing? : Json → Option Json
  | .array items => items.head?
  | value => some value

/-- The values that have no row: for vertices and edges all that are no objects,
and for views those where nothing stands for a row, or null, or a plain value
without a column of its own. -/
inductive Skipped (columns : List Column) : TableKind → Json → Prop
  | noObject {kind : TableKind} {value : Json} (isScan : kind ≠ .view)
      (noObject : ∀ members, value ≠ .object members) :
      Skipped columns kind value
  | missing {value : Json} (missing : value.standing? = none) :
      Skipped columns .view value
  | null {value : Json} (isNull : value.standing? = some .null) :
      Skipped columns .view value
  | plain {value item : Json} (stands : value.standing? = some item)
      (notNull : item ≠ .null) (noObject : ∀ members, item ≠ .object members)
      (columnCount : columns.length ≠ 1) : Skipped columns .view value

namespace Projector

variable {columns : List Column} {kind : TableKind} {options : MatchOptions}
  {row : Row}

/-- The row of an object has a cell for each column. -/
theorem ofMembers_eq (columns : List Column) (kind : TableKind)
    (options : MatchOptions) (members : Entries Json) :
    (build columns kind options).ofMembers members =
      ⟨columns.map fun column =>
        (column.name, column.value kind options members)⟩ := by
  simp only [ofMembers, build, List.map_map]
  rfl

theorem ofMembers_cell (columns : List Column) (kind : TableKind)
    (options : MatchOptions) (members : Entries Json) (place : Nat) :
    ((build columns kind options).ofMembers members).cells[place]? =
      columns[place]?.map fun column =>
        (column.name, column.value kind options members) := by
  rw [ofMembers_eq, List.getElem?_map]

theorem ofMembers_names (columns : List Column) (kind : TableKind)
    (options : MatchOptions) (members : Entries Json) :
    ((build columns kind options).ofMembers members).cells.names =
      columns.map Column.name := by
  rw [ofMembers_eq, Entries.names, List.map_map]
  rfl

theorem ofPlain?_eq_none_iff {value : Json} :
    (build columns kind options).ofPlain? value = none ↔
      columns.length ≠ 1 := by
  rcases columns with _ | ⟨first, _ | ⟨second, rest⟩⟩ <;>
    simp [ofPlain?, build]

theorem ofPlain?_eq_some_iff {value : Json} :
    (build columns kind options).ofPlain? value = some row ↔
      ∃ column, columns = [column] ∧ row = ⟨[(column.name, value)]⟩ := by
  rcases columns with _ | ⟨first, _ | ⟨second, rest⟩⟩
  · simp [ofPlain?, build]
  · simp [ofPlain?, build, eq_comm]
  · simp [ofPlain?, build]

theorem ofPlain?_names {value : Json}
    (isRow : (build columns kind options).ofPlain? value = some row) :
    row.cells.names = columns.map Column.name := by
  obtain ⟨column, rfl, rfl⟩ := ofPlain?_eq_some_iff.mp isRow
  rfl

/-- A value that stands for a result of a view has a row if it is an object, or
if it fills the only column. -/
theorem ofResult?_eq_none_iff {value : Json} :
    (build columns kind options).ofResult? value = none ↔
      value = .null ∨ ((∀ members, value ≠ .object members) ∧
        columns.length ≠ 1) := by
  cases value with
  | null => simp [ofResult?]
  | object members => simp [ofResult?]
  | bool => simp [ofResult?, ofPlain?_eq_none_iff]
  | number => simp [ofResult?, ofPlain?_eq_none_iff]
  | string => simp [ofResult?, ofPlain?_eq_none_iff]
  | array => simp [ofResult?, ofPlain?_eq_none_iff]

theorem ofResult?_names {value : Json}
    (isRow : (build columns kind options).ofResult? value = some row) :
    row.cells.names = columns.map Column.name := by
  cases value with
  | null => cases isRow
  | object members =>
      cases isRow
      exact ofMembers_names columns kind options members
  | bool => exact ofPlain?_names isRow
  | number => exact ofPlain?_names isRow
  | string => exact ofPlain?_names isRow
  | array => exact ofPlain?_names isRow

theorem project?_view (value : Json) :
    (build columns .view options).project? (.wrap .view value) =
      value.standing?.bind (build columns .view options).ofResult? := by
  cases value with
  | array items => cases items <;> rfl
  | _ => rfl

theorem project?_object (members : Entries Json) :
    (build columns kind options).project? (.wrap kind (.object members)) =
      some ((build columns kind options).ofMembers members) := by
  cases kind <;> rfl

/-- Of values other than objects there are no vertices and edges. -/
theorem project?_noObject {value : Json} (isScan : kind ≠ .view)
    (noObject : ∀ members, value ≠ .object members) :
    (build columns kind options).project? (.wrap kind value) = none := by
  cases value with
  | object members => exact absurd rfl (noObject members)
  | _ =>
      cases kind with
      | vertex => rfl
      | edge => rfl
      | view => exact absurd rfl isScan

theorem project?_eq_none_iff {value : Json} :
    (build columns kind options).project? (.wrap kind value) = none ↔
      Skipped columns kind value := by
  by_cases isScan : kind = .view
  · subst isScan
    rw [project?_view, Option.bind_eq_none_iff]
    constructor
    · intro noRow
      cases stands : value.standing? with
      | none => exact .missing stands
      | some item =>
          have noResult := noRow item stands
          rw [ofResult?_eq_none_iff] at noResult
          rcases noResult with isNull | ⟨noObject, columnCount⟩
          · exact .null (isNull ▸ stands)
          · by_cases isNull : item = .null
            · exact .null (isNull ▸ stands)
            · exact .plain stands isNull noObject columnCount
    · intro skipped item stands
      rw [ofResult?_eq_none_iff]
      cases skipped with
      | noObject isScan => exact absurd rfl isScan
      | missing missing => simp [missing] at stands
      | null isNull => exact .inl (Option.some.inj (stands.symm.trans isNull))
      | plain stood notNull noObject columnCount =>
          obtain rfl := Option.some.inj (stands.symm.trans stood)
          exact .inr ⟨noObject, columnCount⟩
  · constructor
    · intro noRow
      refine .noObject isScan ?_
      rintro members rfl
      rw [project?_object] at noRow
      cases noRow
    · intro skipped
      cases skipped with
      | noObject _ noObject => exact project?_noObject isScan noObject
      | missing => exact absurd rfl isScan
      | null => exact absurd rfl isScan
      | plain => exact absurd rfl isScan

theorem project?_names {value : Json}
    (isRow : (build columns kind options).project? (.wrap kind value) =
      some row) :
    row.cells.names = columns.map Column.name := by
  by_cases isScan : kind = .view
  · subst isScan
    rw [project?_view] at isRow
    obtain ⟨item, -, isResult⟩ := Option.bind_eq_some_iff.mp isRow
    exact ofResult?_names isResult
  · by_cases isObject : ∃ members, value = .object members
    · obtain ⟨members, rfl⟩ := isObject
      rw [project?_object] at isRow
      cases isRow
      exact ofMembers_names columns kind options members
    · rw [project?_noObject isScan fun members same =>
        isObject ⟨members, same⟩] at isRow
      cases isRow

end Projector

namespace Row

variable {row : Row} {columns : List Column} {name : String}

/-- A name stands for the first cell of the first column that has it. -/
theorem get?_first (isNamed : row.cells.names = columns.map Column.name)
    {before behind : List Column} {column : Column}
    (split : columns = before ++ column :: behind)
    (first : column.name ∉ before.map Column.name) :
    ∃ value, row.cells[before.length]? = some (column.name, value) ∧
      row.get? column.name = some value := by
  subst split
  rw [List.map_append, List.map_cons] at isNamed
  obtain ⟨cells, others, cellsEq, namesBefore, namesFrom⟩ :=
    List.map_eq_append_iff.mp isNamed
  obtain ⟨⟨_, value⟩, rest, rfl, rfl, -⟩ := List.map_eq_cons_iff.mp namesFrom
  have sameLength : cells.length = before.length := by
    simpa using congrArg List.length namesBefore
  have absent : Entries.lookup? column.name cells = none := by
    rw [Entries.lookup?_eq_none_iff, Entries.names, namesBefore]
    exact first
  refine ⟨value, ?_, ?_⟩
  · rw [cellsEq, ← sameLength]
    simp
  · rw [get?, cellsEq, Entries.lookup?_append, absent]
    simp [Entries.lookup?]

end Row

/-- A record has no row exactly if it is skipped; which records are skipped is
settled by the form of the record and the number of columns.  A row has the names
of the columns, in order and as often as they occur, and a name that is among
them stands for the cell of the first column that has it. -/
theorem Projector.project?_rows (columns : List Column) (kind : TableKind)
    (options : MatchOptions) (value : Json) :
    ((build columns kind options).project? (.wrap kind value) = none ↔
        Skipped columns kind value) ∧
      ∀ row,
        (build columns kind options).project? (.wrap kind value) = some row →
          row.cells.names = columns.map Column.name ∧
          (∀ name, row.get? name = none ↔ name ∉ columns.map Column.name) ∧
          ∀ before column behind, columns = before ++ column :: behind →
            column.name ∉ before.map Column.name →
              ∃ value, row.cells[before.length]? = some (column.name, value) ∧
                row.get? column.name = some value := by
  refine ⟨project?_eq_none_iff, fun row isRow => ?_⟩
  have isNamed := project?_names isRow
  refine ⟨isNamed, fun name => ?_, fun before column behind => ?_⟩
  · rw [← isNamed]
    exact Entries.lookup?_eq_none_iff
  · exact Row.get?_first isNamed

end GraphTable
