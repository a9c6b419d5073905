import GraphTable.Json.Reader
import GraphTable.Shape.Medium

/-!
# Shapes read from JSON text

A draft is a medium. Faults come in the order of the text: whatever has to be
read before a value is known not to fit is read first. Arrays and objects that
lie too deep cannot be used.
-/

namespace GraphTable

namespace Draft

def lapsed {α : Type} (lapse : Lapse) : Except Fault α :=
  .error (.lapse lapse)

def lift {α : Type} : Except Lapse α → Except Fault α
  | .ok value => .ok value
  | .error lapse => lapsed lapse

/-- Refuse a draft where something else is wanted. -/
def unwanted {α : Type} (wanted : String) (draft : Draft) : Except Fault α :=
  match draft.found with
  | .ok found => .error (.mismatch (.wrongType found wanted))
  | .error lapse => lapsed lapse

/-- An optional fault as the end of a list. -/
def endOf : Option Lapse → Except Fault Unit
  | none => .ok ()
  | some lapse => lapsed lapse

/-- Accept a word of a vocabulary. -/
def knownWord (known : List String) (word : String) : Except Fault String :=
  if known.contains word then .ok word
  else .error (.mismatch (.unknownVariant word known))

/-- Accept the end of an object that names a variant: nothing may follow its
only member. -/
def variantEnd (more : List (RawString × Draft)) : Ending → Except Fault Unit
  | .closed => if more.isEmpty then .ok () else lapsed .stray
  | .unclosed lapse => if more.isEmpty then lapsed lapse else lapsed .stray
  | .cut => lapsed .stray
  | .misplaced => lapsed .stray

/-- Read a word of a vocabulary: a string, or an object whose only member has
the word as its name and null as its value. -/
def variant (known : List String) : Draft → Except Fault String
  | .string raw => do knownWord known (← lift raw.text)
  | .object true _ _ => lapsed .stray
  | .object false [] ending =>
      match ending with
      | .cut => lapsed .cut
      | _ => lapsed .stray
  | .object false ((name, value) :: more) ending => do
      let word ← knownWord known (← lift name.text)
      match value with
      | .null => variantEnd more ending
      | other => unwanted "unit" other
      return word
  | .missing lapse => lapsed lapse
  | _ => lapsed .stray

def natural (limit : Nat) (wanted : String) : Draft → Except Fault Nat
  | .number numeral =>
      match numeral.value? with
      | none => lapsed .stray
      | some (.int n) =>
          if 0 ≤ n ∧ n < limit then .ok n.toNat
          else .error (.mismatch (.wrongValue (.number (.int n)) wanted))
      | some float => .error (.mismatch (.wrongType (.number float) wanted))
  | other => unwanted wanted other

/-- The items of an array that can be used. -/
def usedItems (deep : Bool) (items : List Draft) (lapse : Option Lapse) :
    Except Fault (Items Draft) :=
  if deep then lapsed .stray else .ok ⟨items, endOf lapse⟩

def usedMembers (deep : Bool) (members : List (RawString × Draft))
    (ending : Ending) : Except Fault (Members Draft) :=
  if deep then lapsed .stray
  else .ok ⟨members.map fun (name, value) => (.string name, value),
    endOf (endingFault? ending)⟩

instance : Medium Draft (Except Fault) where
  string
    | .string raw => lift raw.text
    | other => unwanted "a string" other
  bool
    | .bool value => .ok value
    | other => unwanted "a boolean" other
  natural := natural
  variant := variant
  optional
    | .null => .ok none
    | draft => .ok (some draft)
  items
    | .array deep items lapse => usedItems deep items lapse
    | other => unwanted "a sequence" other
  members
    | .object deep members ending => usedMembers deep members ending
    | other => unwanted "a map" other
  record wanted
    | .array deep items lapse => (usedItems deep items lapse).map .inr
    | .object deep members ending => (usedMembers deep members ending).map .inl
    | other => unwanted wanted other
  surplus _ := .lapse .stray
  json draft := lift draft.toJson
  skip draft := endOf draft.fault?

/-- Read a whole text as a shape. -/
def decode {α : Type} (read : Draft → Except Fault α) (text : String) :
    Except Fault α :=
  match Draft.read text with
  | (draft, lapse) =>
      match read draft, lapse with
      | .ok value, none => .ok value
      | .ok _, some lapse => lapsed lapse
      | .error fault, _ => .error fault

end Draft

end GraphTable
