import GraphTable.Request.Schema
import GraphTable.Table.Record
import GraphTable.Table.Row

/-!
# Projection of records to rows

A projector settles for each requested column where its value comes from before
any record is seen.

Columns of vertices and edges named `id` or `label` read the identity of the
element, columns of edges named `in` or `out` the identifier of an end, all in
any letter case. Other columns read a property, whose name may differ in letter
case if the exact name is missing. A property of a vertex is a list, and its
first item is taken unless the column holds lists.

Columns of views read the member with exactly their name. A view may also give
plain values, which fill the only column.

A value that is missing is null; only a record of the wrong form has no row.
-/

namespace GraphTable

/-- How names of properties are matched. -/
structure MatchOptions where
  ignoreCase : Bool := true
  deriving Repr, DecidableEq

namespace MatchOptions

/-- The option that decides whether letter case is ignored. -/
def ignoreCaseKey : String := "enable_caseinsensitivematch"

/-- Read the options; only the word `false` turns a default off. -/
def ofOptions (options : Dict String) : MatchOptions :=
  match options.get? ignoreCaseKey with
  | some text => ⟨!Text.sameIgnoringCase (Text.trim text) "false"⟩
  | none => {}

end MatchOptions

inductive EdgeEnd where
  | incoming
  | outgoing
  deriving Repr, DecidableEq

/-- The member of an edge that describes an end. -/
def EdgeEnd.key : EdgeEnd → String
  | .incoming => "IN"
  | .outgoing => "OUT"

/-- Where the value of a column comes from. -/
inductive Rule where
  | identifier
  | label
  | endpoint (side : EdgeEnd)
  | property (name : String) (ignoreCase : Bool) (unwrap : Bool)
  deriving Repr, DecidableEq

/-- Find a member with exactly a name or else, if letter case is ignored, the
first member whose name differs at most in that. -/
def findMember? (name : String) (ignoreCase : Bool) (members : Entries Json) :
    Option Json :=
  match Entries.lookup? name members with
  | some value => some value
  | none =>
      if ignoreCase then
        (members.find? fun entry => Text.sameIgnoringCase entry.1 name).map
          Prod.snd
      else none

/-- The first item of a list, null if it is empty; any other value itself. -/
def firstValue : Json → Json
  | .array [] => .null
  | .array (item :: _) => item
  | other => other

namespace Rule

/-- Settle where the value of a column comes from. -/
def ofColumn (kind : TableKind) (options : MatchOptions) (column : Column) : Rule :=
  let unwrap := decide (column.type ≠ .list)
  match kind with
  | .view => .property column.name false unwrap
  | .vertex =>
      match Text.lower column.name with
      | "id" => .identifier
      | "label" => .label
      | _ => .property column.name options.ignoreCase unwrap
  | .edge =>
      match Text.lower column.name with
      | "id" => .identifier
      | "label" => .label
      | "in" => .endpoint .incoming
      | "out" => .endpoint .outgoing
      | _ => .property column.name options.ignoreCase false

/-- Take the value of a column out of the members of a record. -/
def extract? (members : Entries Json) : Rule → Option Json
  | .identifier => Entries.lookup? "id" members
  | .label => Entries.lookup? "label" members
  | .endpoint side => (Entries.lookup? side.key members).bind (Json.member? "id")
  | .property name ignoreCase unwrap =>
      (findMember? name ignoreCase members).map fun value =>
        if unwrap then firstValue value else value

end Rule

/-- The kind of the records, and the rule of each column. -/
structure Projector where
  kind : TableKind
  rules : List (String × Rule)

namespace Projector

def build (columns : List Column) (kind : TableKind) (options : MatchOptions) :
    Projector :=
  ⟨kind, columns.map fun column =>
    (column.name, Rule.ofColumn kind options column)⟩

def ofMembers (projector : Projector) (members : Entries Json) : Row :=
  ⟨projector.rules.map fun (name, rule) =>
    (name, (rule.extract? members).getD .null)⟩

/-- The row of a plain value, which fills the only column. -/
def ofPlain? (projector : Projector) (value : Json) : Option Row :=
  match projector.rules with
  | [(name, _)] => some ⟨[(name, value)]⟩
  | _ => none

/-- The row of a result of a view. -/
def ofResult? (projector : Projector) : Json → Option Row
  | .null => none
  | .object members => some (projector.ofMembers members)
  | other => projector.ofPlain? other

/-- The row of a record, unless the record has the wrong form. A list among the
results of a view stands for its first item. -/
def project? (projector : Projector) : Record → Option Row
  | .properties members => some (projector.ofMembers members)
  | .generic value =>
      match projector.kind, value with
      | .view, .array [] => none
      | .view, .array (item :: _) => projector.ofResult? item
      | .view, other => projector.ofResult? other
      | _, _ => none

end Projector

end GraphTable
