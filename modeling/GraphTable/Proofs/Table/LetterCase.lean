import GraphTable.Proofs.Table.Cells
import GraphTable.Proofs.Table.Search

/-!
# Columns with and without regard to letter case

Tables of elements are read with or without regard to the case of letters in
names.  The rows differ only where the names as they are written leave a gap: there
the first entry that has the name in another letter case is shown in place of
null.  Tables of views take names as they are written, whatever the option says.
-/

namespace GraphTable

/-- What a column shows if names are taken as they are written, and what it shows
if letter case is ignored. -/
inductive Column.FillsGap (column : Column) (kind : TableKind)
    (members : Dict Json) : Json → Json → Prop
  | identity {value : Json}
      (isIdentity : Text.lower column.name ∈ kind.identityNames) :
      FillsGap column kind members value value
  | written {value : Json}
      (notIdentity : Text.lower column.name ∉ kind.identityNames)
      (mem : (column.name, value) ∈ members.entries) :
      FillsGap column kind members (kind.shown column.type value)
        (kind.shown column.type value)
  | gap {found : Option Json}
      (notIdentity : Text.lower column.name ∉ kind.identityNames)
      (absent : column.name ∉ members.entries.names)
      (finds : members.Finds column.name true found) :
      FillsGap column kind members .null
        ((found.map (kind.shown column.type)).getD .null)

theorem Column.fillsGap_values {kind : TableKind} (isScan : kind ≠ .view)
    (column : Column) (members : Dict Json) :
    column.FillsGap kind members (column.value kind ⟨false⟩ members.entries)
      (column.value kind ⟨true⟩ members.entries) := by
  by_cases isIdentity : Text.lower column.name ∈ kind.identityNames
  · rw [value_of_identity isIdentity, value_of_identity isIdentity]
    exact .identity isIdentity
  · rw [value_of_property isIdentity, value_of_property isIdentity,
      TableKind.ignoresCase_of_scan isScan,
      TableKind.ignoresCase_of_scan isScan, findMember?_exact]
    cases written : Entries.lookup? column.name members.entries with
    | some value =>
        rw [findMember?_of_lookup? written]
        exact .written isIdentity (Entries.mem_of_lookup? written)
    | none =>
        have absent := Entries.lookup?_eq_none_iff.mp written
        exact .gap isIdentity absent
          (members.finds_findMember? column.name true)

namespace Projector

/-- Ignoring letter case fills gaps in the rows of elements and changes nothing
else: the columns of the identity and those whose names are written in the record
show the same, and any other column shows null if names are taken as they are
written, and else the first entry that differs from its name in letter case alone.
Rows of views do not depend on the option. -/
theorem ignoring_case_fills_gaps (columns : List Column) :
    (∀ kind : TableKind, kind ≠ .view → ∀ members : Dict Json,
      ∃ exactRow anyCaseRow,
        (build columns kind ⟨false⟩).Gives members.entries exactRow ∧
        (build columns kind ⟨true⟩).Gives members.entries anyCaseRow ∧
        ∀ (place : Nat) (column : Column), columns[place]? = some column →
          ∃ exact anyCase,
            exactRow.cells[place]? = some (column.name, exact) ∧
            anyCaseRow.cells[place]? = some (column.name, anyCase) ∧
            column.FillsGap kind members exact anyCase) ∧
    ∀ (record : Record) (options others : MatchOptions),
      (build columns .view options).project? record =
        (build columns .view others).project? record := by
  constructor
  · intro kind isScan members
    refine ⟨_, _, gives_values columns kind _ _,
      gives_values columns kind _ _, ?_⟩
    intro place column stands
    refine ⟨_, _, ?_, ?_, column.fillsGap_values isScan members⟩
    · rw [List.getElem?_map, stands, Option.map_some]
    · rw [List.getElem?_map, stands, Option.map_some]
  · intro record options others
    have sameRules : build columns .view options =
        build columns .view others :=
      rfl
    rw [sameRules]

/-- An entry that is null leaves no gap, also if one that is alike comes first. -/
example : (⟨"name", .utf8⟩ : Column).value .vertex ⟨true⟩
    [("NAME", .string "Ada"), ("name", .null)] = .null :=
  rfl

end Projector

end GraphTable
