import GraphTable.Shape.Medium
import GraphTable.Yaml.PlainValue
import GraphTable.Yaml.Token.Scan
import GraphTable.Yaml.Document

/-!
# Shapes read from YAML text

A node of a document is a medium. Strings are read from any scalar, truth values
and numbers from plain ones. Records are written as maps only. Collections nest
up to a limit, and references are followed up to a number of times that grows
with the document, so that reading ends whatever refers to what.
-/

namespace GraphTable

namespace Yaml

/-- Reading that counts how many references may still be followed. -/
abbrev Limited : Type → Type :=
  StateT Nat (Except Fault)

/-- A node together with its document and the number of collections that may
still be nested in it. -/
structure View where
  document : Document
  node : Node
  room : Nat

/-- The number of collections that may be nested. -/
def nestingLimit : Nat := 128

def coreTag (name : String) : Tag :=
  Text.encodeUtf8 ("tag:yaml.org,2002:" ++ name)

def boolTag : Tag := coreTag "bool"

def intTag : Tag := coreTag "int"

def floatTag : Tag := coreTag "float"

def nullTag : Tag := coreTag "null"

def refuse {α : Type} : Limited α :=
  throw (.lapse .stray)

def accept {α : Type} : Option α → Limited α
  | some value => return value
  | none => refuse

/-- Decide whether a tag is local: an exclamation mark stands in front. -/
def isLocal (tag : Tag) : Bool :=
  tag.head? == some 0x21

/-- The word of a local tag, unless its bytes are no text. -/
def localWord? (tag : Option Tag) : Option String := do
  let tag ← tag
  if isLocal tag then (Text.decodeUtf8 (tag.drop 1)).toOption else none

/-- Read a scalar as a JSON value without regard to its tag. -/
def untaggedJson (style : Style) (text : String) : Option Json :=
  if style = .plain then plainJson text else some (.string text)

/-- Read a scalar with a tag that is not local as a JSON value. -/
def taggedJson (tag : Tag) (text : String) : Option Json :=
  if tag = boolTag then (bool? text).map .bool
  else if tag = intTag then
    match whole? text with
    | some (.fits n) => some (.number (.int n))
    | _ => none
  else if tag = floatTag then
    match float? text with
    | some (.finite x) => some (.number (.float x))
    | some .special => some .null
    | none => none
  else if tag = nullTag then
    if isNull text then some .null else none
  else some (.string text)

/-- Read a scalar as a JSON value. A local tag with a word stands for a variant,
which is no such value; one without has no effect. -/
def scalarJson (tag : Option Tag) (style : Style) (text : String) : Option Json :=
  match tag with
  | none => untaggedJson style text
  | some tag =>
      if (localWord? tag).isSome then none
      else if isLocal tag then untaggedJson style text
      else taggedJson tag text

namespace Document

/-- The node that a node means, which takes following a reference if it is
one. -/
def follow (document : Document) : Node → Limited Node
  | .reference number => do
      match ← get, document.node? number with
      | left + 1, some node =>
          set left
          return node
      | _, _ => refuse
  | node => return node

mutual

/-- Read a node as a JSON value; `room` bounds the nesting. -/
def json (document : Document) : (room : Nat) → Node → Limited Json
  | 0, node => do
      match ← document.follow node with
      | .scalar tag style text => accept (scalarJson tag style text)
      | .void => return .null
      | _ => refuse
  | room + 1, node => do
      match ← document.follow node with
      | .scalar tag style text => accept (scalarJson tag style text)
      | .void => return .null
      | .reference _ => refuse
      | .sequence tag items =>
          if (localWord? tag).isSome then refuse
          else return .array (← jsonItems document room items)
      | .mapping tag entries =>
          if (localWord? tag).isSome then refuse
          else return .object (← jsonMembers document room [] entries)
  termination_by room => (room, 0)

def jsonItems (document : Document) (room : Nat) : List Node → Limited (List Json)
  | [] => return []
  | item :: rest => do
      let value ← json document room item
      return value :: (← jsonItems document room rest)
  termination_by items => (room, items.length + 1)

/-- Read entries as the members of an object, after those in `seen`. The last
value of a name wins. -/
def jsonMembers (document : Document) (room : Nat) (seen : List (String × Json)) :
    List (Node × Node) → Limited (List (String × Json))
  | [] => return seen
  | (key, value) :: rest => do
      match ← document.follow key with
      | .scalar _ _ name =>
          let value ← json document room value
          jsonMembers document room (Entries.insert name value seen) rest
      | _ => refuse
  termination_by entries => (room, entries.length + 1)

end

/-- The number of references that may be followed in a document. -/
def referenceLimit (document : Document) : Nat :=
  100 * document.root.marks

end Document

namespace View

def inner (view : View) (node : Node) : View :=
  { view with node, room := view.room - 1 }

def shown (view : View) : Limited Node :=
  view.document.follow view.node

def text (view : View) : Limited String := do
  match ← view.shown with
  | .scalar _ _ text => return text
  | _ => refuse

/-- The text of a scalar that may hold a value of a core type: a plain one, or a
literal one with the tag of the type. -/
def coreText (tag : Tag) (view : View) : Limited String := do
  match ← view.shown with
  | .scalar _ .plain text => return text
  | .scalar (some other) .literal text =>
      if other = tag then return text else refuse
  | _ => refuse

def natural (limit : Nat) (view : View) : Limited Nat := do
  match natural? (← view.coreText intTag) with
  | some n => if n < limit then return n else refuse
  | none => refuse

/-- Read a word: that of a local tag on nothing, or else the text of a scalar. -/
def word (view : View) : Limited String := do
  match ← view.shown with
  | .scalar tag style text =>
      match localWord? tag with
      | some word =>
          if style = .plain && (text = "" || isNull text) then return word
          else refuse
      | none => return text
  | _ => refuse

/-- Decide whether a node stands for an optional value that is left out. -/
def isLeftOut : Node → Limited Bool
  | .void => return true
  | .scalar none .plain text => return text = "" || isNull text
  | .scalar (some tag) .plain text =>
      if tag = nullTag then
        if isNull text then return true else refuse
      else return false
  | _ => return false

/-- Read an optional value. A reference to it is followed once. -/
def optional (view : View) : Limited (Option View) := do
  let node ← view.shown
  if ← isLeftOut node then return none else return some { view with node }

/-- Decide whether a node counts as an empty collection. -/
def isEmptyCollection : Node → Bool
  | .void => true
  | .scalar _ .plain text => text = ""
  | _ => false

def items (view : View) : Limited (Items View) := do
  match ← view.shown with
  | .sequence _ items =>
      if view.room = 0 then refuse
      else return ⟨items.map view.inner, .ok ()⟩
  | node => if isEmptyCollection node then return ⟨[], .ok ()⟩ else refuse

def members (view : View) : Limited (Members View) := do
  match ← view.shown with
  | .mapping _ entries =>
      if view.room = 0 then refuse
      else return ⟨entries.map fun (key, value) => (view.inner key, view.inner value),
        .ok ()⟩
  | node => if isEmptyCollection node then return ⟨[], .ok ()⟩ else refuse

instance : Medium View Limited where
  string := text
  bool view := do accept (bool? (← view.coreText boolTag))
  natural limit _ view := view.natural limit
  variant _ view := view.word
  optional := optional
  items := items
  members := members
  record _ view := do return .inl (← view.members)
  surplus _ := .lapse .stray
  json view := view.document.json view.room view.node
  skip _ := return ()

end View

/-- The only document of a text, from its root on. None if the text is not well
formed. -/
def view? (text : String) : Option View := do
  let document ← Document.ofTokens? (← Token.scan? text)
  return ⟨document, document.root, nestingLimit⟩

/-- Read a whole text as a shape; none if it does not have it. -/
def decode? {α : Type} (read : View → Limited α) (text : String) : Option α := do
  let view ← view? text
  ((read view).run' view.document.referenceLimit).toOption

end Yaml

end GraphTable
