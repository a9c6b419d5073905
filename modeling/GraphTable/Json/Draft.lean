import GraphTable.Json.Numeral

/-!
# Drafts of JSON text

A draft is what can be read of a text before anything is known about the value
that is wanted: the structure of the text up to its first lexical fault, which
is kept at the place where it stands. Strings keep their escapes as code units
and numerals their digits, since only a value that is used must make sense.
-/

namespace GraphTable

/-- Why a text is not JSON. -/
inductive Lapse where
  /-- A character stands where the grammar has no place for it. -/
  | stray
  /-- The text ends inside a value. -/
  | cut
  deriving Repr, DecidableEq

/-- A part of a string as written. -/
inductive Piece where
  | char (c : Char)
  /-- A code unit from a hexadecimal escape. -/
  | unit (n : Nat)
  deriving Repr, DecidableEq

/-- A string as far as it could be read. -/
structure RawString where
  pieces : List Piece
  lapse : Option Lapse
  deriving Repr, DecidableEq

/-- A value that is described only by its type, and by itself if it is small. -/
inductive Found where
  | null
  | bool (value : Bool)
  | number (value : Number)
  | string (value : String)
  | sequence
  | map

/-- How the members of an object end. -/
inductive Ending where
  | closed
  /-- Neither a comma nor a brace follows the last member. -/
  | unclosed (lapse : Lapse)
  /-- The text ends where a name or a brace is due. -/
  | cut
  /-- Something else stands where a name is due. -/
  | misplaced

/-- A JSON text as far as it could be read. Arrays and objects record whether
they lie too deep to be used. -/
inductive Draft where
  | null
  | bool (value : Bool)
  | number (numeral : Numeral)
  | string (raw : RawString)
  | array (deep : Bool) (items : List Draft) (lapse : Option Lapse)
  | object (deep : Bool) (members : List (RawString × Draft)) (ending : Ending)
  /-- A word that starts like `null`, `true` or `false`. -/
  | brokenWord (lapse : Lapse)
  | brokenNumber (lapse : Lapse)
  /-- No value starts here. -/
  | missing (lapse : Lapse)

instance : Inhabited Draft :=
  ⟨.null⟩

/-- Decide whether a code unit is the first half of a pair. -/
def isHighUnit (n : Nat) : Bool :=
  0xD800 ≤ n && n ≤ 0xDBFF

/-- Decide whether a code unit is the second half of a pair. -/
def isLowUnit (n : Nat) : Bool :=
  0xDC00 ≤ n && n ≤ 0xDFFF

/-- The character that a pair of code units stands for. -/
def joinUnits (high low : Nat) : Char :=
  Char.ofNat ((high - 0xD800) * 0x400 + (low - 0xDC00) + 0x10000)

/-- Read pieces as characters. Halves of pairs must come in pairs; `lapse` is
the fault at which the string breaks off, if it does. -/
def readPieces (lapse : Option Lapse) : List Piece → Except Lapse (List Char)
  | [] =>
      match lapse with
      | some lapse => .error lapse
      | none => .ok []
  | .char c :: rest => (readPieces lapse rest).map (c :: ·)
  | .unit n :: rest =>
      if isLowUnit n then .error .stray
      else if isHighUnit n then
        match rest with
        | .unit low :: rest =>
            if isLowUnit low then
              (readPieces lapse rest).map (joinUnits n low :: ·)
            else .error .stray
        | .char _ :: _ => .error .stray
        | [] => .error (lapse.getD .stray)
      else (readPieces lapse rest).map (Char.ofNat n :: ·)

def RawString.text (raw : RawString) : Except Lapse String :=
  (readPieces raw.lapse raw.pieces).map String.ofList

namespace Draft

/-- Describe a draft, after reading as much of it as has to be read first. -/
def found : Draft → Except Lapse Found
  | .null => .ok .null
  | .bool value => .ok (.bool value)
  | .number numeral =>
      match numeral.value? with
      | some value => .ok (.number value)
      | none => .error .stray
  | .string raw => raw.text.map .string
  | .array .. => .ok .sequence
  | .object .. => .ok .map
  | .brokenWord lapse => .error lapse
  | .brokenNumber lapse => .error lapse
  | .missing lapse => .error lapse

mutual

/-- Find the first fault of a draft that is not used. -/
def fault? : Draft → Option Lapse
  | .null | .bool _ | .number _ => none
  | .string raw => raw.lapse
  | .array _ items lapse => (itemsFault? items).or lapse
  | .object _ members ending => (membersFault? members).or (endingFault? ending)
  | .brokenWord lapse => some lapse
  | .brokenNumber _ => some .stray
  | .missing lapse => some lapse

/-- Find the first fault of items that are not used. -/
def itemsFault? : List Draft → Option Lapse
  | [] => none
  | item :: rest => (fault? item).or (itemsFault? rest)

/-- Find the first fault of members that are not used. -/
def membersFault? : List (RawString × Draft) → Option Lapse
  | [] => none
  | (name, value) :: rest =>
      name.lapse.or ((fault? value).or (membersFault? rest))

/-- The fault with which an object ends, if it does. -/
def endingFault? : Ending → Option Lapse
  | .closed => none
  | .unclosed lapse => some lapse
  | .cut => some .cut
  | .misplaced => some .stray

end

mutual

def toJson : Draft → Except Lapse Json
  | .null => .ok .null
  | .bool value => .ok (.bool value)
  | .number numeral =>
      match numeral.value? with
      | some value => .ok (.number value)
      | none => .error .stray
  | .string raw => raw.text.map .string
  | .array deep items lapse =>
      if deep then .error .stray
      else match itemsToJson items with
        | .error lapse => .error lapse
        | .ok values =>
            match lapse with
            | some lapse => .error lapse
            | none => .ok (.array values)
  | .object deep members ending =>
      if deep then .error .stray
      else match membersToJson members with
        | .error lapse => .error lapse
        | .ok entries =>
            match endingFault? ending with
            | some lapse => .error lapse
            | none => .ok (.object (Entries.insertAll [] entries))
  | .brokenWord lapse => .error lapse
  | .brokenNumber lapse => .error lapse
  | .missing lapse => .error lapse

def itemsToJson : List Draft → Except Lapse (List Json)
  | [] => .ok []
  | item :: rest =>
      match toJson item with
      | .error lapse => .error lapse
      | .ok value => (itemsToJson rest).map (value :: ·)

/-- Read members as entries, in the order of the text. -/
def membersToJson : List (RawString × Draft) →
    Except Lapse (List (String × Json))
  | [] => .ok []
  | (name, value) :: rest =>
      match name.text with
      | .error lapse => .error lapse
      | .ok name =>
          match toJson value with
          | .error lapse => .error lapse
          | .ok value => (membersToJson rest).map ((name, value) :: ·)

end

end Draft

end GraphTable
