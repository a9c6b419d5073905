import GraphTable.Text.Utf8
import GraphTable.Yaml.Scalar
import GraphTable.Yaml.Token

/-!
# Tags, anchors and directives in YAML text

A tag is written in full between angle brackets, or as a handle and a suffix. A
character of it may be written as the hexadecimal digits of its bytes, where the
number of bytes is checked but not what they stand for. A tag ends in front of a
zero byte. A directive announces the version of a document or an abbreviation
for tags.
-/

namespace GraphTable.Yaml

/-- Scan the name of an anchor or of a reference from behind its indicator. -/
def scanName (input : Input) : Option (String × Input) :=
  let (name, input) := input.span isWord
  let ended := startsBlank input.rest ||
    input.rest.head?.any "?:,]\x7d%@\x60".toList.contains
  if name.isEmpty || !ended then none else some (String.ofList name, input)

/-- Decide whether a character may stand in a tag. The brackets and the comma
may only stand in a tag that is written in full. -/
def isTagCharacter (full : Bool) (c : Char) : Bool :=
  isWord c || ";/?:@&=+$.%!~*'()".toList.contains c ||
    (full && ",[]".toList.contains c)

/-- The number of bytes of a character, by its first byte. -/
def octetCount? (b : Nat) : Option Nat :=
  if b < 0x80 then some 1
  else if 0xC0 ≤ b ∧ b < 0xE0 then some 2
  else if 0xE0 ≤ b ∧ b < 0xF0 then some 3
  else if 0xF0 ≤ b ∧ b < 0xF8 then some 4
  else none

def readOctet? : List Char → Option (Nat × List Char)
  | '%' :: a :: b :: rest => do
      return ((← hexDigit? a) * 16 + (← hexDigit? b), rest)
  | _ => none

/-- Read the bytes of a character behind the first one. -/
def readOctets? : (count : Nat) → List Char → Option (List UInt8 × List Char)
  | 0, rest => some ([], rest)
  | count + 1, cs => do
      let (b, rest) ← readOctet? cs
      if b / 64 ≠ 2 then none
      let (bytes, rest) ← readOctets? count rest
      return (b.toUInt8 :: bytes, rest)

/-- Read the bytes of a character that is written as hexadecimal digits. -/
def readEscaped? (cs : List Char) : Option (List UInt8 × List Char) := do
  let (b, rest) ← readOctet? cs
  let (bytes, rest) ← readOctets? ((← octetCount? b) - 1) rest
  return (b.toUInt8 :: bytes, rest)

/-- Read the bytes of the characters of a tag, which have one byte each unless
they are escaped; `fuel` bounds the number of steps. -/
def tagBytes? : (fuel : Nat) → List Char → Option (List UInt8)
  | _, [] => some []
  | 0, _ :: _ => none
  | fuel + 1, c :: rest =>
      if c = '%' then do
        let (bytes, rest) ← readEscaped? (c :: rest)
        return bytes ++ (← tagBytes? fuel rest)
      else (tagBytes? fuel rest).map (c.toNat.toUInt8 :: ·)

def scanTagText (full : Bool) (input : Input) : Option (Tag × Input) := do
  let (text, input) := input.span (isTagCharacter full)
  let bytes ← tagBytes? text.length text
  return (bytes.takeWhile (· != 0), input)

/-- Scan the characters of a part of a tag, of which there is one at least. -/
def scanSomeTagText (full : Bool) (input : Input) : Option (Tag × Input) :=
  if input.rest.head?.any (isTagCharacter full) then scanTagText full input
  else none

/-- Scan an exclamation mark, word characters, and perhaps a second mark. -/
def scanHandle (input : Input) : Option (List Char × Input) :=
  match input.rest with
  | '!' :: _ =>
      let (name, input) := (input.drop 1).span isWord
      match input.rest with
      | '!' :: _ => some ('!' :: name ++ ['!'], input.drop 1)
      | _ => some ('!' :: name, input)
  | _ => none

/-- Decide whether a handle stands for an abbreviation. -/
def isFullHandle (handle : List Char) : Bool :=
  2 ≤ handle.length && handle.getLast? == some '!'

def scanShortTag (input : Input) : Option (Token × Input) := do
  let (handle, input) ← scanHandle input
  if isFullHandle handle then
    let (suffix, input) ← scanSomeTagText false input
    return (.tag (String.ofList handle) suffix, input)
  else
    let (text, input) ← scanTagText false input
    let suffix := Text.encodeUtf8 (String.ofList (handle.drop 1)) ++ text
    if suffix.isEmpty then return (.tag "" (Text.encodeUtf8 "!"), input)
    else return (.tag "!" suffix, input)

def scanFullTag (input : Input) : Option (Token × Input) := do
  let (tag, input) ← scanSomeTagText true (input.drop 2)
  match input.rest with
  | '>' :: _ => return (.tag "" tag, input.drop 1)
  | _ => none

/-- Scan a tag. A blank follows it, or a comma inside brackets. -/
def scanTag (flow : Bool) (input : Input) : Option (Token × Input) := do
  let (tag, input) ← match input.rest with
    | '!' :: '<' :: _ => scanFullTag input
    | _ => scanShortTag input
  if startsBlank input.rest || (flow && input.rest.head? == some ',') then
    return (tag, input)
  else none

def scanNumber (input : Input) : Option (Nat × Input) :=
  let (digits, input) := input.span Char.isDigit
  if digits.isEmpty || 9 < digits.length then none
  else some (digits.foldl (fun n c => n * 10 + (c.toNat - 48)) 0, input)

def scanVersion (input : Input) : Option (Token × Input) := do
  let (major, input) ← scanNumber input.skipBlanks
  match input.rest with
  | '.' :: _ =>
      let (minor, input) ← scanNumber (input.drop 1)
      return (.version major minor, input)
  | _ => none

def scanAbbreviation (input : Input) : Option (Token × Input) := do
  let (handle, input) ← scanHandle input.skipBlanks
  if !(isFullHandle handle || handle == ['!']) then none
  if !input.rest.head?.any isBlank then none
  let (expansion, input) ← scanSomeTagText true input.skipBlanks
  if !startsBlank input.rest then none
  return (.abbreviation (String.ofList handle) expansion, input)

def scanDirective (input : Input) : Option (Token × Input) := do
  let (name, input) := (input.drop 1).span isWord
  if !startsBlank input.rest then none
  let (token, input) ←
    if name = "YAML".toList then scanVersion input
    else if name = "TAG".toList then scanAbbreviation input
    else none
  return (token, ← input.finishLine?)

end GraphTable.Yaml
