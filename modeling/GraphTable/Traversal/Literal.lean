/-!
# String literals of scripts

A string literal stands between single quotes. Backslashes, single quotes and
the two line breaks are escaped by a backslash; every other character stands
for itself.
-/

namespace GraphTable.Literal

def writeChar (c : Char) : List Char :=
  if c = '\\' then ['\\', '\\']
  else if c = '\'' then ['\\', '\'']
  else if c = '\n' then ['\\', 'n']
  else if c = '\r' then ['\\', 'r']
  else [c]

def write (text : List Char) : List Char :=
  '\'' :: text.flatMap writeChar ++ ['\'']

def escape? (c : Char) : Option Char :=
  if c = '\\' then some '\\'
  else if c = '\'' then some '\''
  else if c = 'n' then some '\n'
  else if c = 'r' then some '\r'
  else none

/-- Scan a literal from behind its opening quote. Gives its text and what
follows its closing quote; a raw line break is refused. -/
def scanBody : List Char → Option (List Char × List Char)
  | [] => none
  | ['\\'] => none
  | '\\' :: c :: rest => do
      let c ← escape? c
      let (text, rest) ← scanBody rest
      return (c :: text, rest)
  | c :: rest =>
      if c = '\'' then some ([], rest)
      else if c = '\n' ∨ c = '\r' then none
      else do
        let (text, rest) ← scanBody rest
        return (c :: text, rest)

/-- Scan a literal at the front of a text. -/
def scan : List Char → Option (List Char × List Char)
  | '\'' :: rest => scanBody rest
  | _ => none

end GraphTable.Literal
