import GraphTable.Entries
import GraphTable.Text.Utf8
import GraphTable.Yaml.Node

/-!
# YAML documents

A document is a node with the nodes that were anchored in it. Anchors are
numbered by the names met before, so that a name that is used again may share
its number with a later name; a reference means the node that took its number
last.

A text holds one document or none. Each reading function takes a node off the
front of the tokens; an item, key or value that is left out is an empty scalar.
-/

namespace GraphTable.Yaml

/-- A node under the number of its anchor. `start` counts the anchors in front
of it. -/
structure Anchored where
  number : Nat
  start : Nat
  node : Node

structure Document where
  root : Node
  anchored : List Anchored

namespace Document

/-- The later of two anchored nodes with a number. -/
def later (number : Nat) (found : Option Anchored) (next : Anchored) :
    Option Anchored :=
  if next.number = number then
    match found with
    | some other => if next.start < other.start then some other else some next
    | none => some next
  else found

/-- The node that a reference means. -/
def node? (document : Document) (number : Nat) : Option Node :=
  (document.anchored.foldl (later number) none).map Anchored.node

end Document

/-- The state of reading: the tokens to come, the abbreviations for tags, and
the anchors met so far. -/
structure Reading where
  tokens : List Token
  abbreviations : Entries Tag
  numbers : Entries Nat
  starts : Nat
  anchored : List Anchored

namespace Reading

/-- The abbreviations that every document has. -/
def standardAbbreviations : Entries Tag :=
  [("!", Text.encodeUtf8 "!"), ("!!", Text.encodeUtf8 "tag:yaml.org,2002:")]

def start (tokens : List Token) : Reading :=
  ⟨tokens, standardAbbreviations, [], 0, []⟩

def drop (count : Nat) (reading : Reading) : Reading :=
  { reading with tokens := reading.tokens.drop count }

/-- Spell out a tag. None if its handle is unknown. -/
def fullTag? (reading : Reading) (handle : String) (suffix : Tag) : Option Tag :=
  if handle = "" then some suffix
  else (Entries.lookup? handle reading.abbreviations).map (· ++ suffix)

/-- The anchor and the tag in front of a node, in either order. -/
structure Properties where
  anchor : Option String := none
  tag : Option Tag := none

def properties (reading : Reading) : Option (Properties × Reading) :=
  match reading.tokens with
  | .anchor name :: .tag handle suffix :: _ => do
      return (⟨name, ← reading.fullTag? handle suffix⟩, reading.drop 2)
  | .tag handle suffix :: .anchor name :: _ => do
      return (⟨name, ← reading.fullTag? handle suffix⟩, reading.drop 2)
  | .anchor name :: _ => some (⟨name, none⟩, reading.drop 1)
  | .tag handle suffix :: _ => do
      return (⟨none, ← reading.fullTag? handle suffix⟩, reading.drop 1)
  | _ => some ({}, reading)

/-- Give an anchor its number: that of the names met before. -/
def openAnchor (name : Option String) (reading : Reading) :
    Option (Nat × Nat) × Reading :=
  match name with
  | none => (none, reading)
  | some name =>
      let number := reading.numbers.length
      (some (number, reading.starts), { reading with
        numbers := Entries.insert name number reading.numbers
        starts := reading.starts + 1 })

def closeAnchor (anchor : Option (Nat × Nat)) (node : Node) (reading : Reading) :
    Node × Reading :=
  match anchor with
  | none => (node, reading)
  | some (number, start) =>
      (node, { reading with anchored := ⟨number, start, node⟩ :: reading.anchored })

/-- Read an empty node that has properties. -/
def bare (reading : Reading) (anchor : Option (Nat × Nat)) (properties : Properties) :
    Option (Node × Reading) :=
  if properties.anchor.isNone && properties.tag.isNone then none
  else some (reading.closeAnchor anchor (.scalar properties.tag .plain ""))

/-- Decide whether the value or the next entry of a mapping is left out. -/
def endsBlockPart : List Token → Bool
  | .key :: _ | .value :: _ | .blockEnd :: _ => true
  | _ => false

/-- Decide whether the key or the value of a pair inside square brackets is left
out. -/
def endsPairPart : List Token → Bool
  | .flowEntry :: _ | .flowSequenceEnd :: _ => true
  | _ => false

/-- Decide whether the key or the value of an entry inside curly brackets is
left out. -/
def endsFlowPart : List Token → Bool
  | .flowEntry :: _ | .flowMappingEnd :: _ => true
  | _ => false

def isValue : List Token → Bool
  | .value :: _ => true
  | _ => false

mutual

/-- Read a node. `block` allows block collections, and `indentless` a sequence
whose dashes stand at the column of the mapping around it. -/
def node : (fuel : Nat) → (block indentless : Bool) → Reading →
    Option (Node × Reading)
  | 0, _, _, _ => none
  | fuel + 1, block, indentless, reading => do
      match reading.tokens with
      | .reference name :: _ =>
          let number ← Entries.lookup? name reading.numbers
          return (.reference number, reading.drop 1)
      | _ =>
          let (properties, reading) ← properties reading
          let (anchor, opened) := reading.openAnchor properties.anchor
          let tag := properties.tag
          match reading.tokens, block with
          | .scalar style text :: _, _ =>
              return (opened.drop 1).closeAnchor anchor
                (.scalar tag style text)
          | .flowSequenceStart :: _, _ =>
              let (items, reading) ← flowItems fuel true (opened.drop 1)
              return reading.closeAnchor anchor (.sequence tag items)
          | .flowMappingStart :: _, _ =>
              let (entries, reading) ← flowEntries fuel true (opened.drop 1)
              return reading.closeAnchor anchor (.mapping tag entries)
          | .blockSequenceStart :: _, true =>
              let (items, reading) ← blockItems fuel (opened.drop 1)
              return reading.closeAnchor anchor (.sequence tag items)
          | .blockMappingStart :: _, true =>
              let (entries, reading) ← blockEntries fuel (opened.drop 1)
              return reading.closeAnchor anchor (.mapping tag entries)
          | .blockEntry :: _, _ =>
              if indentless then
                let (items, reading) ← indentlessItems fuel opened
                return reading.closeAnchor anchor (.sequence tag items)
              else bare opened anchor properties
          | _, _ => bare opened anchor properties

def blockItems : (fuel : Nat) → Reading → Option (List Node × Reading)
  | 0, _ => none
  | fuel + 1, reading => do
      match reading.tokens with
      | .blockEnd :: _ => return ([], reading.drop 1)
      | .blockEntry :: next =>
          let (item, reading) ← match next with
            | .blockEntry :: _ | .blockEnd :: _ => some (.empty, reading.drop 1)
            | _ => node fuel true false (reading.drop 1)
          let (items, reading) ← blockItems fuel reading
          return (item :: items, reading)
      | _ => none

/-- Read the items of a sequence that has no indentation of its own. -/
def indentlessItems : (fuel : Nat) → Reading → Option (List Node × Reading)
  | 0, _ => none
  | fuel + 1, reading => do
      match reading.tokens with
      | .blockEntry :: next =>
          let (item, reading) ← match next with
            | .blockEntry :: _ => some (.empty, reading.drop 1)
            | next =>
                if endsBlockPart next then some (.empty, reading.drop 1)
                else node fuel true false (reading.drop 1)
          let (items, reading) ← indentlessItems fuel reading
          return (item :: items, reading)
      | _ => return ([], reading)

/-- Read the key or the value of a block mapping behind its token. -/
def blockPart : (fuel : Nat) → Reading → Option (Node × Reading)
  | 0, _ => none
  | fuel + 1, reading =>
      if endsBlockPart reading.tokens then some (.empty, reading)
      else node fuel true true reading

def blockEntries : (fuel : Nat) → Reading → Option (List (Node × Node) × Reading)
  | 0, _ => none
  | fuel + 1, reading => do
      match reading.tokens with
      | .blockEnd :: _ => return ([], reading.drop 1)
      | .key :: _ =>
          let (key, reading) ← blockPart fuel (reading.drop 1)
          let (value, reading) ←
            if isValue reading.tokens then blockPart fuel (reading.drop 1)
            else some (.empty, reading)
          let (entries, reading) ← blockEntries fuel reading
          return ((key, value) :: entries, reading)
      | _ => none

/-- Read the items of a flow sequence; the first one has no comma in front. -/
def flowItems : (fuel : Nat) → (first : Bool) → Reading →
    Option (List Node × Reading)
  | 0, _, _ => none
  | fuel + 1, first, reading => do
      match reading.tokens with
      | .flowSequenceEnd :: _ => return ([], reading.drop 1)
      | _ =>
          let reading ←
            if first then some reading
            else match reading.tokens with
              | .flowEntry :: _ => some (reading.drop 1)
              | _ => none
          match reading.tokens with
          | .flowSequenceEnd :: _ => return ([], reading.drop 1)
          | .key :: _ =>
              let (item, reading) ← flowPair fuel (reading.drop 1)
              let (items, reading) ← flowItems fuel false reading
              return (item :: items, reading)
          | _ =>
              let (item, reading) ← node fuel false false reading
              let (items, reading) ← flowItems fuel false reading
              return (item :: items, reading)

/-- Read the value of a pair or of an entry inside brackets, if there is one;
`ends` tells where it is left out. -/
def flowValue : (fuel : Nat) → (ends : List Token → Bool) → Reading →
    Option (Node × Reading)
  | 0, _, _ => none
  | fuel + 1, ends, reading =>
      if !isValue reading.tokens then some (.empty, reading)
      else if ends (reading.tokens.drop 1) then some (.empty, reading.drop 1)
      else node fuel false false (reading.drop 1)

/-- Read a pair inside a flow sequence, a mapping of one entry. Where its key is
left out, the token that shows it is passed over. -/
def flowPair : (fuel : Nat) → Reading → Option (Node × Reading)
  | 0, _ => none
  | fuel + 1, reading => do
      let (key, reading) ←
        if endsPairPart reading.tokens || isValue reading.tokens then
          some (.empty, reading.drop 1)
        else node fuel false false reading
      let (value, reading) ← flowValue fuel endsPairPart reading
      return (.mapping none [(key, value)], reading)

/-- Read the entries of a flow mapping; the first one has no comma in front. -/
def flowEntries : (fuel : Nat) → (first : Bool) → Reading →
    Option (List (Node × Node) × Reading)
  | 0, _, _ => none
  | fuel + 1, first, reading => do
      match reading.tokens with
      | .flowMappingEnd :: _ => return ([], reading.drop 1)
      | _ =>
          let reading ←
            if first then some reading
            else match reading.tokens with
              | .flowEntry :: _ => some (reading.drop 1)
              | _ => none
          match reading.tokens with
          | .flowMappingEnd :: _ => return ([], reading.drop 1)
          | .key :: _ =>
              let reading := reading.drop 1
              let (key, reading) ←
                if endsFlowPart reading.tokens || isValue reading.tokens then
                  some (.empty, reading)
                else node fuel false false reading
              let (value, reading) ← flowValue fuel endsFlowPart reading
              let (entries, reading) ← flowEntries fuel false reading
              return ((key, value) :: entries, reading)
          | _ =>
              let (key, reading) ← node fuel false false reading
              let (entries, reading) ← flowEntries fuel false reading
              return ((key, .empty) :: entries, reading)

end

/-- Read the directives in front of a document. `versioned` tells whether a
version was announced, `own` holds the abbreviations of this document. -/
def directives (versioned : Bool) (own : Entries Tag) :
    List Token → Option (Entries Tag × List Token)
  | .version major minor :: rest =>
      if versioned || major ≠ 1 || !(minor == 1 || minor == 2) then none
      else directives true own rest
  | .abbreviation handle expansion :: rest =>
      if (Entries.lookup? handle own).isSome then none
      else directives versioned (own ++ [(handle, expansion)]) rest
  | rest => some (own ++ standardAbbreviations, rest)

def isVoid : List Token → Bool
  | [] => true
  | .version .. :: _ | .abbreviation .. :: _ => true
  | .documentStart :: _ | .documentEnd :: _ => true
  | _ => false

/-- Decide whether a document starts with directives or with a line of
dashes. -/
def startsExplicitly : List Token → Bool
  | .version .. :: _ | .abbreviation .. :: _ | .documentStart :: _ => true
  | _ => false

/-- Read the root of a document; `fuel` exceeds what the tokens need. -/
def root (fuel : Nat) (reading : Reading) : Option (Node × Reading) := do
  if startsExplicitly reading.tokens then
    let (abbreviations, rest) ← directives false [] reading.tokens
    match rest with
    | .documentStart :: rest =>
        let reading := { reading with tokens := rest, abbreviations }
        if isVoid rest then return (.empty, reading)
        else node fuel true false reading
    | _ => none
  else node fuel true false reading

def isDocumentEnd : Token → Bool
  | .documentEnd => true
  | _ => false

end Reading

/-- Read the only document of a text from its tokens. -/
def Document.ofTokens? (tokens : List Token) : Option Document :=
  if tokens.isEmpty then some ⟨.void, []⟩
  else do
    let (node, reading) ← Reading.root (4 * tokens.length + 4) (.start tokens)
    if (reading.tokens.dropWhile Reading.isDocumentEnd).isEmpty then
      return ⟨node, reading.anchored⟩
    else none

end GraphTable.Yaml
