import GraphTable.Entries

/-!
# JSON values

Objects keep the order of their members. Integers and floating-point numbers
are different numbers even where they are equal in amount.
-/

namespace GraphTable

/-- A number: an integer, or a binary64 value that is finite. -/
inductive Number where
  | int (value : Int)
  | float (value : Float)

inductive Json where
  | null
  | bool (value : Bool)
  | number (value : Number)
  | string (value : String)
  | array (items : List Json)
  | object (members : List (String × Json))

/-- Compare two numbers: integers with integers and floats with floats, where
zero equals negative zero. -/
def Number.same : Number → Number → Bool
  | .int a, .int b => a == b
  | .float a, .float b => a == b
  | _, _ => false

namespace Json

instance : Inhabited Json :=
  ⟨.null⟩

mutual

/-- Compare two values; the order of object members carries no meaning. -/
def same : Json → Json → Bool
  | .null, .null => true
  | .bool a, .bool b => a == b
  | .number a, .number b => a.same b
  | .string a, .string b => a == b
  | .array a, .array b => sameItems a b
  | .object a, .object b => a.length == b.length && sameMembers a b
  | _, _ => false

def sameItems : List Json → List Json → Bool
  | [], [] => true
  | a :: as, b :: bs => same a b && sameItems as bs
  | _, _ => false

/-- Decide whether every member on the left has an equal one on the right. -/
def sameMembers : List (String × Json) → List (String × Json) → Bool
  | [], _ => true
  | (name, value) :: rest, others =>
      (match Entries.lookup? name others with
        | some other => same value other
        | none => false) && sameMembers rest others

end

/-- The member of an object with a name; none for other values. -/
def member? (name : String) : Json → Option Json
  | .object members => Entries.lookup? name members
  | _ => none

/-- An integer as a value. -/
def ofNat (n : Nat) : Json :=
  .number (.int n)

end Json

end GraphTable
