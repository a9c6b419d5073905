import GraphTable.Json.Value
import GraphTable.Decimal.Notation
import GraphTable.Text.Quoted

/-!
# Writing JSON text

Values are written without spaces. Strings escape quotes, backslashes and the
characters below the space; every other character stands for itself.
-/

namespace GraphTable

namespace Json

def writeChar (c : Char) : List Char :=
  if c = '"' then ['\\', '"']
  else if c = '\\' then ['\\', '\\']
  else if c = '\x08' then ['\\', 'b']
  else if c = '\t' then ['\\', 't']
  else if c = '\n' then ['\\', 'n']
  else if c = '\x0c' then ['\\', 'f']
  else if c = '\r' then ['\\', 'r']
  else if c < ' ' then
    ['\\', 'u', '0', '0', Text.hexDigit (c.toNat / 16), Text.hexDigit (c.toNat % 16)]
  else [c]

def writeString (s : String) : List Char :=
  '"' :: s.toList.flatMap writeChar ++ ['"']

def writeNumber : Number → List Char
  | .int n => (toString n).toList
  | .float x => (Decimal.write x).toList

mutual

def writeValue : Json → List Char
  | .null => "null".toList
  | .bool value => (toString value).toList
  | .number value => writeNumber value
  | .string value => writeString value
  | .array [] => ['[', ']']
  | .array (item :: rest) => '[' :: writeValue item ++ writeItems rest
  | .object [] => ['\x7b', '\x7d']
  | .object ((name, value) :: rest) =>
      '\x7b' :: writeString name ++ ':' :: writeValue value ++ writeMembers rest

/-- Write the items after the first one and the closing bracket. -/
def writeItems : List Json → List Char
  | [] => [']']
  | item :: rest => ',' :: writeValue item ++ writeItems rest

/-- Write the members after the first one and the closing brace. -/
def writeMembers : List (String × Json) → List Char
  | [] => ['\x7d']
  | (name, value) :: rest =>
      ',' :: writeString name ++ ':' :: writeValue value ++ writeMembers rest

end

def write (value : Json) : String :=
  String.ofList (writeValue value)

end Json

end GraphTable
