import GraphTable.Proofs.Table.Rows
import GraphTable.Proofs.Table.Search

/-!
# Columns with exact names

Where letter case is not to be ignored, a column is meant to read what has
exactly its name.  This fails for one kind of name: the columns of the identity
are recognised in any letter case all the same, so that a column named `ID`
shows what a column named `id` would, and not the entry `ID`.
-/

namespace GraphTable

namespace TableKind

/-- What a column shows of a record if names are taken just as they are
written. -/
def exactValue (kind : TableKind) (members : Entries Json) (type : ColumnType)
    (name : String) : Json :=
  if name ∈ kind.identityNames then (identityMember? members name).getD .null
  else ((Entries.lookup? name members).map (kind.shown type)).getD .null

/-- A name is that of a column of the identity but for the case of letters. -/
def Recased (kind : TableKind) (name : String) : Prop :=
  Text.lower name ∈ kind.identityNames ∧ name ∉ kind.identityNames

theorem lower_of_mem_identityNames {kind : TableKind} {name : String}
    (mem : name ∈ kind.identityNames) : Text.lower name = name := by
  have small : ∀ other ∈ kind.identityNames, Text.lower other = other := by
    cases kind <;> decide
  exact small name mem

end TableKind

/-- Every column shows what it shows if names are taken just as they are
written. -/
def Row.Exact (row : Row) (columns : List Column) (kind : TableKind)
    (members : Entries Json) : Prop :=
  ∀ (place : Nat) (column : Column), columns[place]? = some column →
    row.cells[place]? =
      some (column.name, kind.exactValue members column.type column.name)

namespace Projector

variable {columns : List Column} {kind : TableKind} {options : MatchOptions}
  {members : Entries Json} {place : Nat} {column : Column}

/-- A name that is not recased is taken just as it is written. -/
theorem cell_of_exact (exact : options.ignoreCase = false)
    (stands : columns[place]? = some column)
    (notRecased : ¬kind.Recased column.name) :
    ((build columns kind options).ofMembers members).cells[place]? =
      some (column.name,
        kind.exactValue members column.type column.name) := by
  rw [ofMembers_cell, stands, Option.map_some, TableKind.exactValue]
  by_cases written : column.name ∈ kind.identityNames
  · -- A name of the identity is in small letters, so that lowering keeps it.
    have small := TableKind.lower_of_mem_identityNames written
    have isIdentity : Text.lower column.name ∈ kind.identityNames :=
      small.symm ▸ written
    rw [Column.value_of_identity isIdentity, if_pos written, small]
  · have other : Text.lower column.name ∉ kind.identityNames :=
      fun recased => notRecased ⟨recased, written⟩
    rw [Column.value_of_property other, if_neg written,
      TableKind.ignoresCase_eq_false exact, findMember?_exact]

/-- A recased name is taken in small letters. -/
theorem cell_of_recased (stands : columns[place]? = some column)
    (recased : kind.Recased column.name) :
    ((build columns kind options).ofMembers members).cells[place]? =
      some (column.name,
        kind.exactValue members column.type (Text.lower column.name)) := by
  rw [ofMembers_cell, stands, Option.map_some,
    Column.value_of_identity recased.1, TableKind.exactValue,
    if_pos recased.1]

/-- Where letter case is not ignored, every object has a row, in which each
column shows what has exactly its name.  The exceptions are the columns of the
identity in another letter case, which show what they would show in small
letters; the row is exact if and only if this makes no difference. -/
theorem project?_exact (columns : List Column) (kind : TableKind)
    (members : Entries Json) (exact : options.ignoreCase = false) :
    ∃ row,
      (build columns kind options).project? (.wrap kind (.object members)) =
        some row ∧
      (∀ (place : Nat) (column : Column), columns[place]? = some column →
        (¬kind.Recased column.name →
          row.cells[place]? = some (column.name,
            kind.exactValue members column.type column.name)) ∧
        (kind.Recased column.name →
          row.cells[place]? = some (column.name,
            kind.exactValue members column.type (Text.lower column.name)))) ∧
      (row.Exact columns kind members ↔
        ∀ column ∈ columns, kind.Recased column.name →
          kind.exactValue members column.type (Text.lower column.name) =
            kind.exactValue members column.type column.name) := by
  refine ⟨_, project?_object members, fun place column stands =>
    ⟨cell_of_exact exact stands, cell_of_recased stands⟩, ?_⟩
  constructor
  · intro isExact column mem recased
    obtain ⟨place, stands⟩ := List.getElem?_of_mem mem
    have cell := isExact place column stands
    rw [cell_of_recased stands recased] at cell
    simpa using cell
  · intro same place column stands
    by_cases recased : kind.Recased column.name
    · rw [cell_of_recased stands recased,
        same column (List.mem_of_getElem? stands) recased]
    · exact cell_of_exact exact stands recased

def exactOptions : MatchOptions :=
  .ofOptions (Dict.empty.insert MatchOptions.ignoreCaseKey "false")

theorem exactOptions_exact : exactOptions.ignoreCase = false := by
  decide

/-- Members whose names differ in letter case alone. -/
def recasedMembers : Entries Json :=
  [("id", Json.ofNat 1), ("label", .string "person"),
    ("ID", .array [Json.ofNat 7])]

/-- Columns named `id` and `LABELS` show exactly the entries with these
names. -/
theorem recasedMembers_exact :
    exactOptions.ignoreCase = false ∧
      ∃ row,
        (build [⟨"id", .int64⟩, ⟨"LABELS", .utf8⟩] .vertex
            exactOptions).project? (.wrap .vertex (.object recasedMembers)) =
          some row ∧
        row.Exact [⟨"id", .int64⟩, ⟨"LABELS", .utf8⟩] .vertex
          recasedMembers := by
  obtain ⟨row, isRow, -, isExact⟩ := project?_exact
    [⟨"id", .int64⟩, ⟨"LABELS", .utf8⟩] .vertex recasedMembers
    exactOptions_exact
  refine ⟨exactOptions_exact, row, isRow, isExact.mpr ?_⟩
  intro column mem recased
  rcases mem with _ | ⟨_, _ | ⟨_, ⟨⟩⟩⟩
  · exact absurd (by decide) recased.2
  · exact absurd recased.1 (by decide)

/-- A column named `ID` shows the entry `id`, also if there is an entry `ID`. -/
theorem recasedMembers_not_exact :
    exactOptions.ignoreCase = false ∧
      ∃ row,
        (build [⟨"ID", .utf8⟩] .vertex exactOptions).project?
            (.wrap .vertex (.object recasedMembers)) = some row ∧
        row.cells = [("ID", Json.ofNat 1)] ∧
        TableKind.vertex.exactValue recasedMembers .utf8 "ID" = Json.ofNat 7 ∧
        ¬row.Exact [⟨"ID", .utf8⟩] .vertex recasedMembers := by
  refine ⟨exactOptions_exact, _, rfl, rfl, rfl, fun isExact => ?_⟩
  have cell : some ("ID", Json.ofNat 1) = some ("ID", Json.ofNat 7) :=
    isExact 0 ⟨"ID", .utf8⟩ rfl
  simp [Json.ofNat] at cell

end Projector

end GraphTable
