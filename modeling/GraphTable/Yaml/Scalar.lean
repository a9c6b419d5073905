import GraphTable.Yaml.Place

/-!
# Scalars in YAML text

Plain and quoted scalars may go on over several lines. Blanks around a line
break vanish; a single break becomes a space, of several breaks the first one
vanishes. Block scalars keep their breaks or fold them, and the breaks at their
end are kept, cut to one or stripped.
-/

namespace GraphTable.Yaml

/-- White space inside a scalar whose fate is not settled yet. -/
inductive Gap where
  /-- Blanks on one line, last first. -/
  | blanks (seen : List Char)
  /-- Line breaks: the first one, unless it is escaped, and the others, last
  first. -/
  | breaks (first : Option Char) (others : List Char)

namespace Gap

def none : Gap :=
  .blanks []

def isNone : Gap → Bool
  | .blanks seen => seen.isEmpty
  | .breaks _ _ => false

/-- Decide whether a line was broken. -/
def isBroken : Gap → Bool
  | .blanks _ => false
  | .breaks _ _ => true

def text : Gap → List Char
  | .blanks seen => seen.reverse
  | .breaks (some '\n') [] => [' ']
  | .breaks (some '\n') others => others.reverse
  | .breaks first others => first.toList ++ others.reverse

def addBlank (c : Char) : Gap → Gap
  | .blanks seen => .blanks (c :: seen)
  | .breaks first others => .breaks first others

def addBreak (c : Char) : Gap → Gap
  | .blanks _ => .breaks (some c) []
  | .breaks first others => .breaks first (c :: others)

end Gap

/-- A scalar and what follows it; the flag tells whether line breaks were passed
over behind it. -/
structure ScannedScalar where
  text : String
  rest : Input
  broken : Bool

/-- Decide whether a character has a meaning of its own inside brackets. -/
def isFlowIndicator (c : Char) : Bool :=
  c == ',' || c == '[' || c == ']' || c == '\x7b' || c == '\x7d'

/-- Decide whether a plain scalar ends at a colon: a blank or the end follows. -/
def endsPlain (flow : Bool) (c : Char) (rest : List Char) : Bool :=
  (c == ':' && startsBlank rest) || (flow && isFlowIndicator c)

/-- Decide whether a colon stands where none is allowed: inside brackets and in
front of an indicator. -/
def isMisplacedColon (flow : Bool) (c : Char) (rest : List Char) : Bool :=
  flow && c == ':' &&
    match rest with
    | [] => false
    | d :: _ => isFlowIndicator d || d == '?'

/-- End a plain scalar in front of an input. -/
def finishPlain (seen : List Char) (gap : Gap) (input : Input) : ScannedScalar :=
  ⟨String.ofList seen.reverse, input, gap.isBroken⟩

/-- Scan a plain scalar. `margin` is the least column of its further lines,
`seen` its text so far, last first. -/
def scanPlain (flow : Bool) (margin : Int) (seen : List Char) (gap : Gap)
    (place : Place) : List Char → Option ScannedScalar
  | [] => some (finishPlain seen gap ⟨[], place⟩)
  | c :: rest =>
      if isBreak c then
        scanPlain flow margin seen (gap.addBreak c) (place.after c) rest
      else if isBlank c then
        if gap.isBroken && c == '\t' && decide ((place.column : Int) < margin) then
          none
        else scanPlain flow margin seen (gap.addBlank c) (place.after c) rest
      else if !gap.isNone && ((!flow && decide ((place.column : Int) < margin)) ||
          Input.isDocumentMarker ⟨c :: rest, place⟩ || c == '#') then
        some (finishPlain seen gap ⟨c :: rest, place⟩)
      else if isMisplacedColon flow c rest then none
      else if endsPlain flow c rest then
        some (finishPlain seen gap ⟨c :: rest, place⟩)
      else
        scanPlain flow margin (c :: (gap.text.reverse ++ seen)) .none
          (place.after c) rest

def shortEscape? (c : Char) : Option Char :=
  match c with
  | '0' => some '\x00'
  | 'a' => some '\x07'
  | 'b' => some '\x08'
  | 't' | '\t' => some '\t'
  | 'n' => some '\n'
  | 'v' => some '\x0b'
  | 'f' => some '\x0c'
  | 'r' => some '\r'
  | 'e' => some '\x1b'
  | ' ' => some ' '
  | '"' => some '"'
  | '/' => some '/'
  | '\\' => some '\\'
  | 'N' => some '\u0085'
  | '_' => some '\u00a0'
  | 'L' => some '\u2028'
  | 'P' => some '\u2029'
  | _ => none

/-- The number of hexadecimal digits behind a long escape. -/
def longEscape? (c : Char) : Option Nat :=
  match c with
  | 'x' => some 2
  | 'u' => some 4
  | 'U' => some 8
  | _ => none

def hexDigit? (c : Char) : Option Nat :=
  if '0' ≤ c ∧ c ≤ '9' then some (c.toNat - 48)
  else if 'a' ≤ c ∧ c ≤ 'f' then some (c.toNat - 87)
  else if 'A' ≤ c ∧ c ≤ 'F' then some (c.toNat - 55)
  else none

def hexValue? (count : Nat) (cs : List Char) : Option Nat :=
  if cs.length < count then none
  else (cs.take count).foldlM
    (fun value c => (hexDigit? c).map (value * 16 + ·)) 0

def character? (n : Nat) : Option Char :=
  if n.isValidChar then some (Char.ofNat n) else none

/-- An escape behind its backslash: its character and its length. -/
def escape? : List Char → Option (Char × Nat)
  | [] => none
  | c :: rest =>
      match shortEscape? c with
      | some d => some (d, 1)
      | none => do
          let count ← longEscape? c
          let d ← character? (← hexValue? count rest)
          return (d, count + 1)

/-- Scan a quoted scalar from behind its opening quote. `skip` characters of the
text belong to an escape that was read already. -/
def scanQuoted (double : Bool) (seen : List Char) (gap : Gap) (skip : Nat)
    (place : Place) : List Char → Option ScannedScalar
  | [] => none
  | c :: rest =>
      if 0 < skip then
        scanQuoted double seen gap (skip - 1) (place.after c) rest
      else if isBreak c then
        scanQuoted double seen (gap.addBreak c) 0 (place.after c) rest
      else if isBlank c then
        scanQuoted double seen (gap.addBlank c) 0 (place.after c) rest
      else if Input.isDocumentMarker ⟨c :: rest, place⟩ then none
      else
        let seen := gap.text.reverse ++ seen
        if c = (if double then '"' else '\'') then
          if !double && rest.head? == some '\'' then
            scanQuoted double ('\'' :: seen) .none 1 (place.after c) rest
          else some ⟨String.ofList seen.reverse, ⟨rest, place.after c⟩, false⟩
        else if double && c == '\\' then
          if !rest.isEmpty && startsBreak rest then
            scanQuoted double seen (.breaks none []) 1 (place.after c) rest
          else match escape? rest with
            | some (d, length) =>
                scanQuoted double (d :: seen) .none length (place.after c) rest
            | none => none
        else scanQuoted double (c :: seen) .none 0 (place.after c) rest

/-- What becomes of the line breaks at the end of a block scalar. -/
inductive Chomping where
  | strip
  | clip
  | keep
  deriving Repr, DecidableEq

structure BlockHeader where
  chomping : Chomping
  increment : Option Nat

def chomping? (c : Char) : Option Chomping :=
  if c = '+' then some .keep else if c = '-' then some .strip else none

/-- The indentation that an indicator stands for: a digit other than zero. -/
def increment? (c : Char) : Option Nat :=
  if '1' ≤ c ∧ c ≤ '9' then some (c.toNat - 48) else none

/-- Read the indicators of a block scalar. -/
def readIndicators : List Char → BlockHeader × Nat
  | [] => (⟨.clip, none⟩, 0)
  | c :: rest =>
      let second := rest.head?
      match chomping? c, increment? c with
      | some chomping, _ =>
          match second.bind increment? with
          | some n => (⟨chomping, some n⟩, 2)
          | none => (⟨chomping, none⟩, 1)
      | none, some n =>
          match second.bind chomping? with
          | some chomping => (⟨chomping, some n⟩, 2)
          | none => (⟨.clip, some n⟩, 1)
      | none, none => (⟨.clip, none⟩, 0)

/-- Pass over the empty lines in front of a block scalar whose indentation is
not given. Gives the breaks, last first, and the greatest column that was met;
none where a tab stands in the indentation. -/
def scanLeadingBreaks (found : List Char) (widest : Nat) (place : Place) :
    List Char → Option (List Char × Nat × Input)
  | [] => some (found, max widest place.column, ⟨[], place⟩)
  | c :: rest =>
      if c = ' ' then scanLeadingBreaks found widest (place.after c) rest
      else if c = '\t' then none
      else if isBreak c then
        scanLeadingBreaks (c :: found) (max widest place.column) (place.after c)
          rest
      else some (found, max widest place.column, ⟨c :: rest, place⟩)

/-- A block scalar read so far. -/
structure BlockText where
  /-- The text without the last breaks, last first. -/
  seen : List Char
  /-- The break at the end of the last line that is not empty. -/
  first : Option Char
  /-- The breaks of the empty lines behind it, last first. -/
  others : List Char
  /-- The last line that is not empty starts with a blank. -/
  blankStart : Bool

namespace BlockText

/-- Start a line with a character. A break between two lines that do not start
with blanks is folded. -/
def startLine (folded : Bool) (text : BlockText) (c : Char) : BlockText :=
  let gap :=
    if folded && text.first == some '\n' && !text.blankStart && !isBlank c then
      if text.others.isEmpty then [' '] else text.others
    else text.others ++ text.first.toList
  ⟨c :: (gap ++ text.seen), none, [], isBlank c⟩

/-- The text with the breaks at its end. -/
def finish (chomping : Chomping) (text : BlockText) : List Char :=
  text.seen.reverse ++
    match chomping with
    | .strip => []
    | .clip => text.first.toList
    | .keep => text.first.toList ++ text.others.reverse

end BlockText

/-- Scan the lines of a block scalar with a known indentation. `inLine` tells
whether a line that is not empty was started. -/
def scanBlock (folded : Bool) (indent : Nat) (text : BlockText) (inLine : Bool)
    (place : Place) : List Char → Option (BlockText × Input)
  | [] => some (text, ⟨[], place⟩)
  | c :: rest =>
      if isBreak c then
        let text := if inLine then { text with first := some c }
          else { text with others := c :: text.others }
        scanBlock folded indent text false (place.after c) rest
      else if inLine then
        scanBlock folded indent { text with seen := c :: text.seen } true
          (place.after c) rest
      else if c = ' ' ∧ place.column < indent then
        scanBlock folded indent text false (place.after c) rest
      else if c = '\t' ∧ place.column < indent then none
      else if place.column = indent then
        scanBlock folded indent (text.startLine folded c) true (place.after c) rest
      else some (text, ⟨c :: rest, place⟩)

/-- Scan a block scalar from behind its first indicator. `parent` is the
indentation of the collection around it. -/
def scanBlockScalar (folded : Bool) (parent : Int) (input : Input) :
    Option ScannedScalar := do
  let (header, length) := readIndicators input.rest
  let input ← (input.drop length).finishLine?
  let (indent, breaks, input) ← match header.increment with
    | some n => some ((max parent 0).toNat + n, [], input)
    | none => do
        let (breaks, widest, input) ← scanLeadingBreaks [] 0 input.place input.rest
        some (max (max widest (parent + 1).toNat) 1, breaks, input)
  let (text, input) ←
    scanBlock folded indent ⟨[], none, breaks, false⟩ false input.place input.rest
  return ⟨String.ofList (text.finish header.chomping), input, false⟩

end GraphTable.Yaml
