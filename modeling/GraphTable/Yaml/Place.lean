/-!
# Characters and places in YAML text

A place counts the bytes, the lines and the characters of the line before it.
Carriage returns and the next-line character are read as line feeds, so that a
line break is one character afterwards.
-/

namespace GraphTable.Yaml

/-- Decide whether a character may stand in a text at all. -/
def isAllowed (c : Char) : Bool :=
  let n := c.toNat
  c == '\t' || c == '\n' || c == '\r' || (0x20 ≤ n && n ≤ 0x7E) || n == 0x85 ||
    (0xA0 ≤ n && n ≤ 0xD7FF) || (0xE000 ≤ n && n ≤ 0xFFFD) || 0x10000 ≤ n

/-- Write every line break but the two separators as a line feed. -/
def unifyBreaks : List Char → List Char
  | [] => []
  | '\r' :: '\n' :: rest => '\n' :: unifyBreaks rest
  | c :: rest =>
      (if c = '\r' ∨ c = '\u0085' then '\n' else c) :: unifyBreaks rest

def isBreak (c : Char) : Bool :=
  c == '\n' || c == '\u2028' || c == '\u2029'

def isBlank (c : Char) : Bool :=
  c == ' ' || c == '\t'

/-- Decide whether a text starts with a blank or a line break, or is empty. -/
def startsBlank : List Char → Bool
  | [] => true
  | c :: _ => isBlank c || isBreak c

/-- Decide whether a text is empty or starts with a line break. -/
def startsBreak : List Char → Bool
  | [] => true
  | c :: _ => isBreak c

def isWord (c : Char) : Bool :=
  c.isAlphanum || c == '_' || c == '-'

/-- A place in a text. -/
structure Place where
  offset : Nat
  line : Nat
  column : Nat
  deriving Repr, DecidableEq

def Place.start : Place :=
  ⟨0, 0, 0⟩

def Place.after (place : Place) (c : Char) : Place :=
  let offset := place.offset + c.utf8Size
  if isBreak c then ⟨offset, place.line + 1, 0⟩
  else ⟨offset, place.line, place.column + 1⟩

/-- A text from a place on. -/
structure Input where
  rest : List Char
  place : Place

namespace Input

/-- Split off the characters up to the first one that fails a test. -/
def span (test : Char → Bool) (input : Input) : List Char × Input :=
  let taken := input.rest.takeWhile test
  (taken, ⟨input.rest.dropWhile test, taken.foldl Place.after input.place⟩)

def drop (count : Nat) (input : Input) : Input :=
  ⟨input.rest.drop count,
    (input.rest.take count).foldl Place.after input.place⟩

/-- Decide whether a line starts here with three times a character and nothing
or a blank behind. -/
def isMarker (c : Char) (input : Input) : Bool :=
  input.place.column == 0 && input.rest.take 3 == [c, c, c] &&
    startsBlank (input.rest.drop 3)

/-- Decide whether a line that separates documents starts here. -/
def isDocumentMarker (input : Input) : Bool :=
  input.isMarker '-' || input.isMarker '.'

def skipBlanks (input : Input) : Input :=
  (input.span isBlank).2

/-- Pass over blanks, a comment and the break at the end of a line. None if
anything else follows. -/
def finishLine? (input : Input) : Option Input :=
  let input := input.skipBlanks
  let input := match input.rest with
    | '#' :: _ => (input.span fun c => !isBreak c).2
    | _ => input
  if startsBreak input.rest then some (input.drop 1) else none

end Input

end GraphTable.Yaml
