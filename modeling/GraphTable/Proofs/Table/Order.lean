import Mathlib.Data.List.Nodup
import GraphTable.Proofs.Table.Cells
import GraphTable.Proofs.Table.Search

/-!
# The order of entries

A search that takes the first entry it meets may depend on the order of the
entries.  It does not where no two entries can be meant by one name: then the
rows of a record are the same in every order of its entries, and where letter case
is ignored, the columns may be written in any case as well.
-/

namespace GraphTable

namespace Entries

variable {α : Type} {entries : Entries α}

/-- The entries under their names in small letters. -/
def lowered (entries : Entries α) : Entries α :=
  entries.map fun entry => (Text.lower entry.1, entry.2)

theorem names_lowered (entries : Entries α) :
    entries.lowered.names = entries.names.map Text.lower := by
  simp [lowered, names]

theorem Distinct.of_lowered (distinct : entries.lowered.Distinct) :
    entries.Distinct := by
  rw [Distinct, names_lowered] at distinct
  exact distinct.of_map Text.lower

end Entries

section Search

variable {name : String} {members others : Entries Json}

theorem find?_alike (name : String) (members : Entries Json) :
    (members.find? fun entry =>
        Text.sameIgnoringCase entry.1 name).map Prod.snd =
      Entries.lookup? (Text.lower name) members.lowered := by
  induction members with
  | nil => rfl
  | cons entry rest ih =>
      obtain ⟨first, value⟩ := entry
      have tail : Entries.lowered ((first, value) :: rest) =
          (Text.lower first, value) :: Entries.lowered rest :=
        rfl
      rw [tail, Entries.lookup?, ← ih]
      by_cases same : Text.lower first = Text.lower name
      · simp [Text.sameIgnoringCase, same]
      · simp [Text.sameIgnoringCase, same]

/-- Where names are distinct in small letters, an entry with exactly a name is the
only one that is alike to it, so that the search is a lookup in small letters. -/
theorem findMember?_lowered (distinct : members.lowered.Distinct)
    (name : String) :
    findMember? name true members =
      Entries.lookup? (Text.lower name) members.lowered := by
  cases written : Entries.lookup? name members with
  | some value =>
      have mem : (Text.lower name, value) ∈ members.lowered :=
        List.mem_map_of_mem (Entries.mem_of_lookup? written)
      rw [findMember?_of_lookup? written, Entries.lookup?_of_mem distinct mem]
  | none =>
      rw [findMember?_of_absent written, if_pos rfl, find?_alike]

theorem findMember?_perm {ignoreCase : Bool} (distinct : members.Distinct)
    (loweredDistinct : ignoreCase = true → members.lowered.Distinct)
    (perm : members.Perm others) :
    findMember? name ignoreCase others = findMember? name ignoreCase members := by
  cases ignoreCase with
  | false =>
      rw [findMember?_exact, findMember?_exact,
        Entries.lookup?_perm distinct perm]
  | true =>
      have lowered := loweredDistinct rfl
      have loweredPerm : members.lowered.Perm others.lowered :=
        perm.map _
      have othersLowered : others.lowered.Distinct :=
        (loweredPerm.map Prod.fst).nodup_iff.mp lowered
      rw [findMember?_lowered othersLowered, findMember?_lowered lowered,
        Entries.lookup?_perm lowered loweredPerm]

end Search

namespace Column

variable {column other : Column} {kind : TableKind} {options : MatchOptions}
  {members others : Entries Json}

/-- The same column with its name in another letter case. -/
structure Recased (column other : Column) : Prop where
  name : Text.lower other.name = Text.lower column.name
  type : other.type = column.type

theorem value_perm (distinct : members.Distinct)
    (loweredDistinct : kind.ignoresCase options = true →
      members.lowered.Distinct)
    (perm : members.Perm others) :
    column.value kind options others = column.value kind options members := by
  apply value_congr
  · intro isIdentity
    apply TableKind.identityMember?_congr
    intro key mem
    exact Entries.lookup?_perm distinct perm
  · intro notIdentity
    exact findMember?_perm distinct loweredDistinct perm

theorem value_recased (ignored : kind.ignoresCase options = true)
    (distinct : members.lowered.Distinct) (recased : column.Recased other) :
    other.value kind options members = column.value kind options members := by
  by_cases isIdentity : Text.lower column.name ∈ kind.identityNames
  · have otherIdentity : Text.lower other.name ∈ kind.identityNames := by
      rw [recased.name]
      exact isIdentity
    rw [value_of_identity isIdentity, value_of_identity otherIdentity,
      recased.name]
  · have otherProperty : Text.lower other.name ∉ kind.identityNames := by
      rw [recased.name]
      exact isIdentity
    rw [value_of_property isIdentity, value_of_property otherProperty,
      ignored, findMember?_lowered distinct, findMember?_lowered distinct,
      recased.name, recased.type]

theorem map_value_recased {columns recased : List Column}
    (ignored : kind.ignoresCase options = true)
    (distinct : members.lowered.Distinct)
    (isRecased : List.Forall₂ Column.Recased columns recased) :
    recased.map (fun column => column.value kind options members) =
      columns.map fun column => column.value kind options members := by
  induction isRecased with
  | nil => rfl
  | cons first _ ih =>
      rw [List.map_cons, List.map_cons, value_recased ignored distinct first, ih]

end Column

namespace Projector

/-- The order of the entries of a record does not matter where no name can mean
two of them: for elements read without regard to letter case this holds if the
names of the entries differ in more than letter case, and the columns may then be
written in any case; for views, and for elements with names taken as they are
written, it always holds. -/
theorem order_immaterial (columns : List Column) (kind : TableKind)
    (options : MatchOptions) (members : Entries Json) :
    ∃ row, (build columns kind options).Gives members row ∧
      (kind ≠ .view → options.ignoreCase = true → members.lowered.Distinct →
        (∀ permuted, members.Perm permuted →
          (build columns kind options).Gives permuted row) ∧
        ∀ recased, List.Forall₂ Column.Recased columns recased →
          ∃ recasedRow,
            (build recased kind options).Gives members recasedRow ∧
            recasedRow.cells.names = recased.map Column.name ∧
            recasedRow.cells.map Prod.snd = row.cells.map Prod.snd) ∧
      (kind = .view ∨ options.ignoreCase = false → members.Distinct →
        ∀ permuted, members.Perm permuted →
          (build columns kind options).Gives permuted row) := by
  have given := gives_values columns kind options members
  refine ⟨_, given, ?_, ?_⟩
  · intro isScan ignored distinct
    have ignores : kind.ignoresCase options = true := by
      rw [TableKind.ignoresCase_of_scan isScan, ignored]
    constructor
    · intro permuted perm
      apply given.congr
      intro column _
      exact Column.value_perm distinct.of_lowered (fun _ => distinct) perm
    · intro recased isRecased
      refine ⟨_, gives_values recased kind options members, ?_, ?_⟩
      · simp [Entries.names]
      · rw [List.map_map, List.map_map]
        exact Column.map_value_recased ignores distinct isRecased
  · intro asWritten distinct permuted perm
    have ignores : kind.ignoresCase options = false := by
      rcases asWritten with rfl | exact
      · rfl
      · exact TableKind.ignoresCase_eq_false exact kind
    apply given.congr
    intro column _
    apply Column.value_perm distinct _ perm
    rw [ignores]
    exact fun isTrue => nomatch isTrue

/-- Of entries that are alike the first is shown, so that their order matters. -/
example : (⟨"name", .utf8⟩ : Column).value .vertex ⟨true⟩
        [("NAME", .string "Ada"), ("Name", .string "Lovelace")] =
      .string "Ada" ∧
    (⟨"name", .utf8⟩ : Column).value .vertex ⟨true⟩
        [("Name", .string "Lovelace"), ("NAME", .string "Ada")] =
      .string "Lovelace" :=
  ⟨rfl, rfl⟩

end Projector

end GraphTable
