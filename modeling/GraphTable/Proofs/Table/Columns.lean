import GraphTable.Table.Projector

/-!
# What columns read

A column of a table of elements either belongs to the identity of an element,
which its name tells whatever the case of its letters, or reads the entry with
its name.  A column of a view always does the latter.
-/

namespace GraphTable

/-- What a column of a type shows of a value that may be a list: the first item,
unless the type is that of lists. -/
def ColumnType.unwrapped : ColumnType → Json → Json
  | .list, value => value
  | _, .array items => items.headD .null
  | _, value => value

namespace TableKind

/-- The names of the columns that show the identity of an element. -/
def identityNames : TableKind → List String
  | .vertex => ["id", "label"]
  | .edge => ["id", "label", "in", "out"]
  | .view => []

/-- What a column of the identity reads in a record. -/
def identityMember? (members : Entries Json) : String → Option Json
  | "id" => Entries.lookup? "id" members
  | "label" => Entries.lookup? "label" members
  | "in" => (Entries.lookup? "IN" members).bind (Json.member? "id")
  | "out" => (Entries.lookup? "OUT" members).bind (Json.member? "id")
  | _ => none

/-- The entries in which the identity of an element is described. -/
def identityKeys : List String :=
  ["id", "label", "IN", "OUT"]

/-- How a column of a type shows the value of an entry.  The properties of edges
are not in lists. -/
def shown : TableKind → ColumnType → Json → Json
  | .edge, _, value => value
  | _, type, value => type.unwrapped value

/-- Whether entries are also found by names in another letter case. -/
def ignoresCase : TableKind → MatchOptions → Bool
  | .view, _ => false
  | _, options => options.ignoreCase

theorem identityMember?_congr {members others : Entries Json}
    (same : ∀ key ∈ identityKeys,
      Entries.lookup? key others = Entries.lookup? key members)
    (name : String) :
    identityMember? others name = identityMember? members name := by
  unfold identityMember?
  split
  · exact same "id" (by decide)
  · exact same "label" (by decide)
  · rw [same "IN" (by decide)]
  · rw [same "OUT" (by decide)]
  · rfl

theorem ignoresCase_of_scan {kind : TableKind}
    (isScan : kind ≠ .view) (options : MatchOptions) :
    kind.ignoresCase options = options.ignoreCase := by
  cases kind with
  | vertex => rfl
  | edge => rfl
  | view => exact absurd rfl isScan

theorem ignoresCase_eq_false {options : MatchOptions}
    (exact : options.ignoreCase = false) (kind : TableKind) :
    kind.ignoresCase options = false := by
  cases kind with
  | view => rfl
  | vertex => exact exact
  | edge => exact exact

end TableKind

namespace Rule

theorem firstValue_eq (type : ColumnType) (value : Json) :
    (if decide (type ≠ .list) then firstValue value else value) =
      type.unwrapped value := by
  cases type <;> cases value with
  | array items => cases items <;> rfl
  | _ => rfl

theorem extract?_unwrapped (members : Entries Json) (name : String)
    (ignoreCase : Bool) (type : ColumnType) :
    (property name ignoreCase (decide (type ≠ .list))).extract? members =
      (findMember? name ignoreCase members).map type.unwrapped :=
  congrArg (Option.map · _) (funext (firstValue_eq type))

theorem extract?_whole (members : Entries Json) (name : String)
    (ignoreCase : Bool) :
    (property name ignoreCase false).extract? members =
      findMember? name ignoreCase members :=
  Option.map_id_apply

/-- A column reads the identity if its name in small letters belongs to it, and
else the entry that is found by its name. -/
theorem extract?_ofColumn (kind : TableKind) (options : MatchOptions)
    (column : Column) (members : Entries Json) :
    (ofColumn kind options column).extract? members =
      if Text.lower column.name ∈ kind.identityNames then
        TableKind.identityMember? members (Text.lower column.name)
      else
        (findMember? column.name (kind.ignoresCase options) members).map
          (kind.shown column.type) := by
  cases kind with
  | view => exact extract?_unwrapped members column.name false column.type
  | vertex =>
      simp only [ofColumn]
      generalize Text.lower column.name = name
      split
      · rfl
      · rfl
      · next notId notLabel =>
          have other : name ∉ TableKind.vertex.identityNames := by
            simp only [TableKind.identityNames, List.mem_cons,
              List.not_mem_nil, or_false, not_or]
            exact ⟨notId, notLabel⟩
          rw [if_neg other]
          exact extract?_unwrapped members column.name _ column.type
  | edge =>
      simp only [ofColumn]
      generalize Text.lower column.name = name
      split
      · rfl
      · rfl
      · rfl
      · rfl
      · next notId notLabel notIn notOut =>
          have other : name ∉ TableKind.edge.identityNames := by
            simp only [TableKind.identityNames, List.mem_cons,
              List.not_mem_nil, or_false, not_or]
            exact ⟨notId, notLabel, notIn, notOut⟩
          rw [if_neg other, extract?_whole]
          exact Option.map_id_apply.symm

end Rule

namespace Column

variable {column : Column} {kind : TableKind} {options : MatchOptions}
  {members others : Entries Json}

/-- What a column shows of a record with these members. -/
def value (column : Column) (kind : TableKind) (options : MatchOptions)
    (members : Entries Json) : Json :=
  ((Rule.ofColumn kind options column).extract? members).getD .null

theorem value_of_identity
    (isIdentity : Text.lower column.name ∈ kind.identityNames) :
    column.value kind options members =
      (TableKind.identityMember? members
        (Text.lower column.name)).getD .null := by
  rw [value, Rule.extract?_ofColumn, if_pos isIdentity]

theorem value_of_property
    (notIdentity : Text.lower column.name ∉ kind.identityNames) :
    column.value kind options members =
      ((findMember? column.name (kind.ignoresCase options) members).map
        (kind.shown column.type)).getD .null := by
  rw [value, Rule.extract?_ofColumn, if_neg notIdentity]

/-- Two records show the same in a column if they do so where the column looks:
at the identity, or else among the entries. -/
theorem value_congr
    (identity : Text.lower column.name ∈ kind.identityNames →
      TableKind.identityMember? others (Text.lower column.name) =
        TableKind.identityMember? members (Text.lower column.name))
    (property : Text.lower column.name ∉ kind.identityNames →
      findMember? column.name (kind.ignoresCase options) others =
        findMember? column.name (kind.ignoresCase options) members) :
    column.value kind options others = column.value kind options members := by
  by_cases isIdentity : Text.lower column.name ∈ kind.identityNames
  · rw [value_of_identity isIdentity, value_of_identity isIdentity,
      identity isIdentity]
  · rw [value_of_property isIdentity, value_of_property isIdentity,
      property isIdentity]

end Column

end GraphTable
