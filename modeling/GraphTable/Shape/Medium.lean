import GraphTable.Shape.Fault

/-!
# Media and the shapes read from them

A medium carries structured values: a draft of JSON text, a JSON value, a YAML
node. It says how strings, lists, maps and the other basic shapes are read from
it; records, maps of names and optional values are read alike from every medium.
Parts are read in the order in which the medium holds them, so that the first
fault is the one reported. Each medium has a monad of its own for reading, which
can fail with a fault and may keep count of something.
-/

namespace GraphTable

/-- The items of a list, and the fault behind the last one. -/
structure Items (ν : Type) where
  values : List ν
  ending : Except Fault Unit

/-- The members of a map, and the fault behind the last one. -/
structure Members (ν : Type) where
  entries : List (ν × ν)
  ending : Except Fault Unit

/-- A carrier of structured values and the monad in which they are read. The text
argument of several operations says what is wanted, for messages. -/
class Medium (ν : Type) (m : outParam (Type → Type)) where
  string : ν → m String
  bool : ν → m Bool
  natural : (limit : Nat) → (wanted : String) → ν → m Nat
  variant : (known : List String) → ν → m String
  optional : ν → m (Option ν)
  items : ν → m (Items ν)
  members : ν → m (Members ν)
  /-- A record is written as a map or, where the medium allows it, as the list
  of its fields. -/
  record : (wanted : String) → ν → m (Members ν ⊕ Items ν)
  /-- The fault of a record written as a list that is too long. -/
  surplus : (length : Nat) → Fault
  json : ν → m Json
  /-- Pass over a value that is not used. -/
  skip : ν → m Unit

namespace Shape

variable {ν α : Type} {m : Type → Type}
variable [Monad m] [MonadExceptOf Fault m] [Medium ν m]

def optional (read : ν → m α) (value : ν) : m (Option α) := do
  match ← Medium.optional value with
  | none => return none
  | some value => return some (← read value)

def list (read : ν → m α) (value : ν) : m (List α) := do
  let items ← Medium.items value
  let read ← items.values.mapM read
  MonadExcept.ofExcept items.ending
  return read

/-- Read a map of names; the last value of a name wins. -/
def dict (read : ν → m α) (value : ν) : m (Dict α) := do
  let members ← Medium.members value
  let dict ← members.entries.foldlM
    (fun dict entry => do
      let name ← Medium.string entry.1
      let value ← read entry.2
      return dict.insert name value)
    Dict.empty
  MonadExcept.ofExcept members.ending
  return dict

end Shape

/-- A field of a record that is read into the slots `σ`. -/
structure Slot (m : Type → Type) (ν σ : Type) where
  name : String
  required : Bool
  isFilled : σ → Bool
  fill : σ → ν → m σ

/-- How a record is read: its slots in order of declaration, and how a value is
made of filled slots. -/
structure RecordShape (m : Type → Type) (ν σ α : Type) where
  name : String
  slots : List (Slot m ν σ)
  blank : σ
  build : σ → Except Fault α

namespace RecordShape

variable {ν α σ : Type} {m : Type → Type}
variable [Monad m] [MonadExceptOf Fault m] [Medium ν m]

/-- How messages name the record. -/
def wanted (shape : RecordShape m ν σ α) : String :=
  "struct " ++ shape.name

/-- How messages name the record written as a list. -/
def wantedLength (shape : RecordShape m ν σ α) : String :=
  let count := shape.slots.length
  let noun := if count = 1 then "element" else "elements"
  s!"{shape.wanted} with {count} {noun}"

/-- Put one member into its slot. A member of another name is passed over. -/
def place (shape : RecordShape m ν σ α) (filled : σ) (entry : ν × ν) :
    m σ := do
  let name ← Medium.string entry.1
  match shape.slots.find? (·.name == name) with
  | none =>
      Medium.skip entry.2
      return filled
  | some slot =>
      if slot.isFilled filled then throw (.mismatch (.duplicateField name))
      else slot.fill filled entry.2

/-- Fill slots from a list. `index` counts the items before. -/
def fillInOrder (shape : RecordShape m ν σ α) (ending : Except Fault Unit)
    (index : Nat) : List (Slot m ν σ) → List ν → σ → m σ
  | [], [], filled => do
      MonadExcept.ofExcept ending
      return filled
  | [], extra, _ => throw (Medium.surplus ν (index + extra.length))
  | slot :: slots, [], filled => do
      MonadExcept.ofExcept ending
      if slot.required then
        throw (.mismatch (.wrongLength index shape.wantedLength))
      else fillInOrder shape ending (index + 1) slots [] filled
  | slot :: slots, value :: values, filled => do
      let filled ← slot.fill filled value
      fillInOrder shape ending (index + 1) slots values filled

def read (shape : RecordShape m ν σ α) (value : ν) : m α := do
  match ← Medium.record shape.wanted value with
  | .inl members =>
      let filled ← members.entries.foldlM shape.place shape.blank
      MonadExcept.ofExcept members.ending
      MonadExcept.ofExcept (shape.build filled)
  | .inr items =>
      let filled ← fillInOrder shape items.ending 0 shape.slots items.values
        shape.blank
      MonadExcept.ofExcept (shape.build filled)

end RecordShape

/-- The content of a slot that must be filled. -/
def requireField {α : Type} (name : String) (slot : Option α) : Except Fault α :=
  match slot with
  | some value => .ok value
  | none => .error (.mismatch (.missingField name))

end GraphTable
