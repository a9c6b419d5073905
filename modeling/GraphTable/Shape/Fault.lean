import GraphTable.Decimal.Notation
import GraphTable.Json.Draft
import GraphTable.Text.Quoted

/-!
# Faults of shape

A value is read as a record, a list, a word of a closed vocabulary and so on.
Reading fails because the text is not well formed or because a well-formed part
of it has another shape than the one wanted there.
-/

namespace GraphTable

def Found.message : Found → String
  | .null => "null"
  | .bool value => s!"boolean \x60{value}\x60"
  | .number (.int n) => s!"integer \x60{n}\x60"
  | .number (.float x) => s!"floating point \x60{Decimal.write x}\x60"
  | .string s => "string " ++ Text.quoted s
  | .sequence => "sequence"
  | .map => "map"

/-- Why a value does not have the shape wanted. -/
inductive Mismatch where
  | wrongType (found : Found) (wanted : String)
  | wrongValue (found : Found) (wanted : String)
  | wrongLength (length : Nat) (wanted : String)
  | missingField (name : String)
  | duplicateField (name : String)
  | unknownVariant (name : String) (known : List String)

/-- Put a name between grave accents. -/
def marked (name : String) : String :=
  "\x60" ++ name ++ "\x60"

def Mismatch.message : Mismatch → String
  | .wrongType found wanted => s!"invalid type: {found.message}, expected {wanted}"
  | .wrongValue found wanted => s!"invalid value: {found.message}, expected {wanted}"
  | .wrongLength length wanted => s!"invalid length {length}, expected {wanted}"
  | .missingField name => "missing field " ++ marked name
  | .duplicateField name => "duplicate field " ++ marked name
  | .unknownVariant name known =>
      "unknown variant " ++ marked name ++ ", expected one of " ++
        String.intercalate ", " (known.map marked)

/-- Why a value could not be read. -/
inductive Fault where
  | lapse (lapse : Lapse)
  | mismatch (mismatch : Mismatch)

end GraphTable
