import GraphTable.Text.Quoted
import GraphTable.Traversal.Basic
import GraphTable.Traversal.Literal

/-!
# Traversals as scripts

A store that does not evaluate steps itself gets the script of a traversal: the
steps as method calls on `g`. `Traversal.read?` reads such a script back.
-/

namespace GraphTable

def Source.script : Source → List Char
  | .vertices => ".V()".toList
  | .edges => ".E()".toList

def Step.script : Step → List Char
  | .hasLabel label => ".hasLabel(".toList ++ Literal.write label.toList ++ [')']
  | .valueMap => ".valueMap().with(WithOptions.tokens)".toList
  | .elementMap => ".elementMap()".toList

def Traversal.script (traversal : Traversal) : String :=
  String.ofList ('g' :: traversal.source.script ++
    traversal.steps.flatMap Step.script)

def Source.display : Source → String
  | .vertices => "V"
  | .edges => "E"

def Step.display : Step → String
  | .hasLabel label => "HasLabel(" ++ Text.quoted label ++ ")"
  | .valueMap => "ValueMap \x7b tokens: true \x7d"
  | .elementMap => "ElementMap"

/-- Remove a word from the front of a text. -/
def dropWord? : (word : List Char) → List Char → Option (List Char)
  | [], rest => some rest
  | _ :: _, [] => none
  | c :: word, d :: rest => if c = d then dropWord? word rest else none

def Step.read? (cs : List Char) : Option (Step × List Char) :=
  match dropWord? ".hasLabel(".toList cs with
  | some rest => do
      let (label, rest) ← Literal.scan rest
      let rest ← dropWord? [')'] rest
      return (.hasLabel (String.ofList label), rest)
  | none =>
      match dropWord? ".valueMap().with(WithOptions.tokens)".toList cs with
      | some rest => some (.valueMap, rest)
      | none => (dropWord? ".elementMap()".toList cs).map (.elementMap, ·)

/-- Read calls up to the end of a script; `fuel` bounds their number. -/
def Step.readAll? : (fuel : Nat) → List Char → Option (List Step)
  | _, [] => some []
  | 0, _ :: _ => none
  | fuel + 1, c :: cs => do
      let (step, rest) ← Step.read? (c :: cs)
      return step :: (← Step.readAll? fuel rest)

def Traversal.read? (script : String) : Option Traversal := do
  let rest ← dropWord? ['g'] script.toList
  let (source, rest) ←
    match dropWord? Source.vertices.script rest with
    | some rest => some (Source.vertices, rest)
    | none => (dropWord? Source.edges.script rest).map (Source.edges, ·)
  return ⟨source, ← Step.readAll? rest.length rest⟩

end GraphTable
