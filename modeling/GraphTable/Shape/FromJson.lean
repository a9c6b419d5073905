import GraphTable.Shape.FromDraft

/-!
# Shapes read from JSON values

A JSON value is a medium without lexical faults.
-/

namespace GraphTable

namespace Json

def found : Json → Found
  | .null => .null
  | .bool value => .bool value
  | .number value => .number value
  | .string value => .string value
  | .array _ => .sequence
  | .object _ => .map

/-- Refuse a value where something else is wanted. -/
def unwanted {α : Type} (wanted : String) (value : Json) : Except Fault α :=
  .error (.mismatch (.wrongType value.found wanted))

/-- Read a word of a vocabulary: a string, or an object whose only member has
the word as its name and null as its value. -/
def variant (known : List String) : Json → Except Fault String
  | .string word => Draft.knownWord known word
  | .object [(name, value)] => do
      let word ← Draft.knownWord known name
      match value with
      | .null => return word
      | other => unwanted "unit" other
  | .object _ => .error (.mismatch (.wrongValue .map "map with a single key"))
  | other => unwanted "string or map" other

def natural (limit : Nat) (wanted : String) : Json → Except Fault Nat
  | .number (.int n) =>
      if 0 ≤ n ∧ n < limit then .ok n.toNat
      else .error (.mismatch (.wrongValue (.number (.int n)) wanted))
  | other => unwanted wanted other

/-- The members of an object as members of a medium. -/
def asMembers (members : List (String × Json)) : Members Json :=
  ⟨members.map fun (name, value) => (.string name, value), .ok ()⟩

instance : Medium Json (Except Fault) where
  string
    | .string value => .ok value
    | other => unwanted "a string" other
  bool
    | .bool value => .ok value
    | other => unwanted "a boolean" other
  natural := natural
  variant := variant
  optional
    | .null => .ok none
    | value => .ok (some value)
  items
    | .array items => .ok ⟨items, .ok ()⟩
    | other => unwanted "a sequence" other
  members
    | .object members => .ok (asMembers members)
    | other => unwanted "a map" other
  record wanted
    | .array items => .ok (.inr ⟨items, .ok ()⟩)
    | .object members => .ok (.inl (asMembers members))
    | other => unwanted wanted other
  surplus length := .mismatch (.wrongLength length "fewer elements in array")
  json value := .ok value
  skip _ := .ok ()

end Json

end GraphTable
