import GraphTable.Text.AsciiCase
import GraphTable.Text.Blank

/-!
# Kinds of tables

A table shows the vertices or the edges of a graph that have one label, or the
results of a query written out in full. Its metadata name the kind in any letter
case, with white space around it.
-/

namespace GraphTable

/-- What the rows of a table are made of. -/
inductive TableKind where
  | vertex
  | edge
  | view
  deriving Repr, DecidableEq

/-- Why a request cannot be read from its metadata. -/
inductive RequestError where
  | missingMetadata (key : String)
  | unrecognizedKind (text : String)
  deriving Repr, DecidableEq

def RequestError.message : RequestError → String
  | .missingMetadata key => s!"Table schema has no \x60{key}\x60 metadata"
  | .unrecognizedKind text =>
      s!"Unrecognized component type \x60{text}\x60; expected vertex, edge or view"

namespace TableKind

def name : TableKind → String
  | .vertex => "vertex"
  | .edge => "edge"
  | .view => "view"

def all : List TableKind :=
  [.vertex, .edge, .view]

/-- The kind with exactly this name. -/
def ofName? (text : String) : Option TableKind :=
  all.find? fun kind => kind.name == text

/-- Read a kind from metadata. -/
def parse (text : String) : Except RequestError TableKind :=
  match ofName? (Text.lower (Text.trim text)) with
  | some kind => .ok kind
  | none => .error (.unrecognizedKind text)

end TableKind

end GraphTable
