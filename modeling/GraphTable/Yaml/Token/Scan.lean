import GraphTable.Yaml.Tag

/-!
# Scanning YAML text

The scanner turns a text into tokens. It keeps the columns at which block
collections are indented, and for the text outside and inside each bracket the
place where a simple key may have started. A colon turns such a place into a key:
the tokens for the key, and for the mapping if it starts here, are inserted in
front of what was scanned since.
-/

namespace GraphTable.Yaml

/-- A place where a simple key may have started. -/
structure SimpleKey where
  /-- A value must follow, since nothing else may stand at its column. -/
  required : Bool
  /-- The number of tokens in front of it. -/
  index : Nat
  place : Place

structure Scanner where
  input : Input
  /-- The column of the innermost block collection; -1 outside all of them. -/
  indent : Int
  outerIndents : List Int
  keyAllowed : Bool
  /-- The simple key of the innermost bracket, and those around it. -/
  key : Option SimpleKey
  outerKeys : List (Option SimpleKey)
  /-- The tokens so far, last first, and their number. -/
  tokens : List Token
  count : Nat

/-- A simple key stays on one line and within this number of bytes. -/
def simpleKeyLimit : Nat := 1024

/-- Give up a simple key that has become too long. None if its value is
required. -/
def SimpleKey.check (place : Place) : Option SimpleKey →
    Option (Option SimpleKey)
  | none => some none
  | some key =>
      let isStale := key.place.line < place.line ||
        key.place.offset + simpleKeyLimit < place.offset
      if isStale then if key.required then none else some none
      else some (some key)

namespace Scanner

def start (cs : List Char) : Scanner where
  input := ⟨cs, Place.start⟩
  indent := -1
  outerIndents := []
  keyAllowed := true
  key := none
  outerKeys := []
  tokens := []
  count := 0

/-- Decide whether a bracket is open. -/
def inFlow (s : Scanner) : Bool :=
  !s.outerKeys.isEmpty

def column (s : Scanner) : Nat :=
  s.input.place.column

def emit (token : Token) (s : Scanner) : Scanner :=
  { s with tokens := token :: s.tokens, count := s.count + 1 }

/-- Insert a token behind a number of tokens. -/
def insert (index : Nat) (token : Token) (s : Scanner) : Scanner :=
  let later := s.count - index
  { s with
    tokens := s.tokens.take later ++ token :: s.tokens.drop later
    count := s.count + 1 }

def drop (count : Nat) (s : Scanner) : Scanner :=
  { s with input := s.input.drop count }

/-- Add a token of some characters. -/
def take (count : Nat) (token : Token) (s : Scanner) : Scanner :=
  (s.drop count).emit token

/-- Start a block collection at a column, behind a number of tokens, unless one
is indented as far already. -/
def roll (column : Nat) (index : Nat) (token : Token) (s : Scanner) : Scanner :=
  if s.inFlow || decide ((column : Int) ≤ s.indent) then s
  else { s.insert index token with
    indent := column
    outerIndents := s.indent :: s.outerIndents }

/-- The number of block collections that end at a column, and those that go
on. -/
def unrolled (column indent : Int) : List Int → Nat × Int × List Int
  | [] => (0, indent, [])
  | outer :: rest =>
      if column < indent then
        let (count, indent, rest) := unrolled column outer rest
        (count + 1, indent, rest)
      else (0, indent, outer :: rest)

/-- End the block collections that are indented further than a column. -/
def unroll (column : Int) (s : Scanner) : Scanner :=
  if s.inFlow then s
  else
    let (count, indent, outerIndents) := unrolled column s.indent s.outerIndents
    { s with
      indent := indent
      outerIndents := outerIndents
      tokens := List.replicate count .blockEnd ++ s.tokens
      count := s.count + count }

/-- Give up the simple key. None if its value is required. -/
def dropKey (s : Scanner) : Option Scanner :=
  if s.key.any SimpleKey.required then none else some { s with key := none }

/-- Note that a simple key may start here. -/
def saveKey (s : Scanner) : Option Scanner :=
  if s.keyAllowed then do
    let s ← s.dropKey
    let required := !s.inFlow && s.indent == s.column
    return { s with key := some ⟨required, s.count, s.input.place⟩ }
  else some s

/-- Allow or forbid a simple key at the next character. -/
def allowKey (allowed : Bool) (s : Scanner) : Scanner :=
  { s with keyAllowed := allowed }

/-- Pass over blanks, comments and line breaks. Tabs count as blanks only where
no simple key may start. -/
def skipSpace (inFlow keyAllowed inComment : Bool) (place : Place) :
    List Char → Input × Bool
  | [] => (⟨[], place⟩, keyAllowed)
  | c :: rest =>
      if isBreak c then
        skipSpace inFlow (keyAllowed || !inFlow) false (place.after c) rest
      else if inComment || c == ' ' || (c == '\uFEFF' && place.column == 0) ||
          (c == '\t' && (inFlow || !keyAllowed)) then
        skipSpace inFlow keyAllowed inComment (place.after c) rest
      else if c = '#' then skipSpace inFlow keyAllowed true (place.after c) rest
      else (⟨c :: rest, place⟩, keyAllowed)

/-- Go to the next token: pass over space, give up simple keys that have become
too long, and end block collections. -/
def advance (s : Scanner) : Option Scanner := do
  let (input, keyAllowed) :=
    skipSpace s.inFlow s.keyAllowed false s.input.place s.input.rest
  let key ← SimpleKey.check input.place s.key
  let outerKeys ← s.outerKeys.mapM (SimpleKey.check input.place)
  let s := { s with input, keyAllowed, key, outerKeys }
  return s.unroll s.column

def takeMarker (token : Token) (s : Scanner) : Option Scanner := do
  let s ← (s.unroll (-1)).dropKey
  return (s.take 3 token).allowKey false

def takeDirective (s : Scanner) : Option Scanner := do
  let s ← (s.unroll (-1)).dropKey
  let (token, input) ← scanDirective s.input
  return ({ s with input }.emit token).allowKey false

def takeOpening (token : Token) (s : Scanner) : Option Scanner := do
  let s ← s.saveKey
  return ({ s with key := none, outerKeys := s.key :: s.outerKeys }.take 1
    token).allowKey true

def takeClosing (token : Token) (s : Scanner) : Option Scanner := do
  let s ← s.dropKey
  let s := match s.outerKeys with
    | [] => s
    | key :: outerKeys => { s with key, outerKeys }
  return (s.take 1 token).allowKey false

def takeFlowEntry (s : Scanner) : Option Scanner := do
  return ((← s.dropKey).take 1 .flowEntry).allowKey true

/-- Start a block collection at the next character, where a key must be
allowed. -/
def rollHere (token : Token) (s : Scanner) : Option Scanner :=
  if s.inFlow then some s
  else if s.keyAllowed then some (s.roll s.column s.count token)
  else none

def takeBlockEntry (s : Scanner) : Option Scanner := do
  let s ← (← s.rollHere .blockSequenceStart).dropKey
  return (s.take 1 .blockEntry).allowKey true

def takeKey (s : Scanner) : Option Scanner := do
  let s ← (← s.rollHere .blockMappingStart).dropKey
  return (s.take 1 .key).allowKey !s.inFlow

def takeValue (s : Scanner) : Option Scanner :=
  match s.key with
  | some key =>
      let s := (s.insert key.index .key).roll key.place.column key.index
        .blockMappingStart
      some (({ s with key := none }.take 1 .value).allowKey false)
  | none => do
      let s ← s.rollHere .blockMappingStart
      return (s.take 1 .value).allowKey !s.inFlow

/-- Take a token that may be a simple key or a part of one. -/
def takeKeyPart (scan : Input → Option (Token × Input)) (s : Scanner) :
    Option Scanner := do
  let s ← s.saveKey
  let (token, input) ← scan s.input
  return ({ s with input }.emit token).allowKey false

def takeBlockScalar (style : Style) (s : Scanner) : Option Scanner := do
  let s ← s.dropKey
  let scalar ← scanBlockScalar (style == .folded) s.indent (s.input.drop 1)
  return ({ s with input := scalar.rest }.emit
    (.scalar style scalar.text)).allowKey true

def takeQuoted (style : Style) (s : Scanner) : Option Scanner := do
  let s ← s.saveKey
  let input := s.input.drop 1
  let scalar ← scanQuoted (style == .doubleQuoted) [] .none 0 input.place input.rest
  return ({ s with input := scalar.rest }.emit
    (.scalar style scalar.text)).allowKey false

/-- Take a plain scalar. Line breaks behind it allow a key again. -/
def takePlain (s : Scanner) : Option Scanner := do
  let s ← s.saveKey
  let scalar ← scanPlain s.inFlow (s.indent + 1) [] .none s.input.place s.input.rest
  return ({ s with input := scalar.rest }.emit
    (.scalar .plain scalar.text)).allowKey scalar.broken

def takeName (token : String → Token) (s : Scanner) : Option Scanner :=
  s.takeKeyPart fun input => do
    let (name, input) ← scanName (input.drop 1)
    return (token name, input)

/-- Decide whether a plain scalar may start with a character. -/
def startsPlain (flow : Bool) (c : Char) (rest : List Char) : Bool :=
  !("-?:,[]\x7b\x7d#&*!|>'\"%@\x60".toList.contains c || isBlank c || isBreak c) ||
    (c == '-' && !rest.head?.any isBlank) ||
    (!flow && (c == '?' || c == ':') && !startsBlank rest)

def takeToken (c : Char) (rest : List Char) (s : Scanner) : Option Scanner :=
  let flow := s.inFlow
  let blank := startsBlank rest
  if c = '%' ∧ s.column = 0 then s.takeDirective
  else if s.input.isMarker '-' then s.takeMarker .documentStart
  else if s.input.isMarker '.' then s.takeMarker .documentEnd
  else if c = '[' then s.takeOpening .flowSequenceStart
  else if c = '\x7b' then s.takeOpening .flowMappingStart
  else if c = ']' then s.takeClosing .flowSequenceEnd
  else if c = '\x7d' then s.takeClosing .flowMappingEnd
  else if c = ',' then s.takeFlowEntry
  else if c = '-' ∧ blank then s.takeBlockEntry
  else if c = '?' ∧ (flow ∨ blank) then s.takeKey
  else if c = ':' ∧ (flow ∨ blank) then s.takeValue
  else if c = '*' then s.takeName .reference
  else if c = '&' then s.takeName .anchor
  else if c = '!' then s.takeKeyPart (scanTag flow)
  else if c = '|' ∧ !flow then s.takeBlockScalar .literal
  else if c = '>' ∧ !flow then s.takeBlockScalar .folded
  else if c = '\'' then s.takeQuoted .singleQuoted
  else if c = '"' then s.takeQuoted .doubleQuoted
  else if startsPlain flow c rest then s.takePlain
  else none

/-- Scan to the end of the text; `fuel` bounds the number of tokens that start
with a character. -/
def run : (fuel : Nat) → Scanner → Option (List Token)
  | 0, _ => none
  | fuel + 1, s => do
      let s ← s.advance
      match s.input.rest with
      | [] =>
          let s ← (s.unroll (-1)).dropKey
          return s.tokens.reverse
      | c :: rest => run fuel (← s.takeToken c rest)

end Scanner

/-- The tokens of a text; none if it is not well formed. Every token takes a
character at least. -/
def Token.scan? (text : String) : Option (List Token) :=
  if text.toList.all isAllowed then
    let cs := unifyBreaks text.toList
    Scanner.run (cs.length + 1) (.start cs)
  else none

end GraphTable.Yaml
