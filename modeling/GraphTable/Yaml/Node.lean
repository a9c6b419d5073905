import GraphTable.Yaml.Token

/-!
# Nodes of YAML documents

A node is a scalar, a collection, or a reference to a node that was anchored.
-/

namespace GraphTable.Yaml

inductive Node where
  /-- What an empty text consists of. -/
  | void
  | scalar (tag : Option Tag) (style : Style) (text : String)
  | sequence (tag : Option Tag) (items : List Node)
  | mapping (tag : Option Tag) (entries : List (Node × Node))
  | reference (number : Nat)

instance : Inhabited Node :=
  ⟨.void⟩

/-- The scalar that stands where a node is left out. -/
def Node.empty : Node :=
  .scalar none .plain ""

mutual

/-- The number of marks that a node is made of: one for a scalar or a reference,
two for a collection, besides those of its parts. -/
def Node.marks : Node → Nat
  | .void | .scalar .. | .reference _ => 1
  | .sequence _ items => 2 + Node.itemMarks items
  | .mapping _ entries => 2 + Node.entryMarks entries

def Node.itemMarks : List Node → Nat
  | [] => 0
  | item :: rest => Node.marks item + Node.itemMarks rest

def Node.entryMarks : List (Node × Node) → Nat
  | [] => 0
  | (key, value) :: rest =>
      Node.marks key + Node.marks value + Node.entryMarks rest

end

end GraphTable.Yaml
