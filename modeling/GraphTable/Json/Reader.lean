import GraphTable.Json.Draft

/-!
# Reading JSON text

Text is read character by character into a draft. Reading stops at the first
lexical fault; whatever was read before it stays in the draft.
-/

namespace GraphTable

namespace Draft

/-- Decide whether a character may stand between tokens. -/
def isSpace (c : Char) : Bool :=
  c = ' ' || c = '\t' || c = '\n' || c = '\r'

def skipSpace (cs : List Char) : List Char :=
  cs.dropWhile isSpace

def hexValue? (c : Char) : Option Nat :=
  if '0' ≤ c ∧ c ≤ '9' then some (c.toNat - 48)
  else if 'a' ≤ c ∧ c ≤ 'f' then some (c.toNat - 87)
  else if 'A' ≤ c ∧ c ≤ 'F' then some (c.toNat - 55)
  else none

def codeUnit? (a b c d : Char) : Option Nat := do
  let a ← hexValue? a
  let b ← hexValue? b
  let c ← hexValue? c
  let d ← hexValue? d
  return ((a * 16 + b) * 16 + c) * 16 + d

/-- The character that a short escape stands for. -/
def shortEscape? (c : Char) : Option Char :=
  if c = '"' then some '"'
  else if c = '\\' then some '\\'
  else if c = '/' then some '/'
  else if c = 'b' then some '\x08'
  else if c = 'f' then some '\x0c'
  else if c = 'n' then some '\n'
  else if c = 'r' then some '\r'
  else if c = 't' then some '\t'
  else none

/-- The fault of a hexadecimal escape that has no four digits: the text ends if
fewer than four bytes follow. -/
def shortHexLapse (rest : List Char) : Lapse :=
  if (rest.take 4).foldl (fun size c => size + c.utf8Size) 0 < 4 then .cut else .stray

/-- Read a string from behind its opening quote; `seen` holds the pieces read
so far, last first. Gives the text behind the closing quote, if there is one. -/
def readString (seen : List Piece) : List Char → RawString × Option (List Char)
  | [] => (⟨seen.reverse, some .cut⟩, none)
  | '"' :: rest => (⟨seen.reverse, none⟩, some rest)
  | ['\\'] => (⟨seen.reverse, some .cut⟩, none)
  | '\\' :: 'u' :: a :: b :: c :: d :: rest =>
      match codeUnit? a b c d with
      | some n => readString (.unit n :: seen) rest
      | none => (⟨seen.reverse, some (shortHexLapse (a :: b :: c :: d :: rest))⟩, none)
  | '\\' :: 'u' :: rest => (⟨seen.reverse, some (shortHexLapse rest)⟩, none)
  | '\\' :: c :: rest =>
      match shortEscape? c with
      | some c => readString (.char c :: seen) rest
      | none => (⟨seen.reverse, some .stray⟩, none)
  | c :: rest =>
      if c < ' ' then (⟨seen.reverse, some .stray⟩, none)
      else readString (.char c :: seen) rest

def isDigit (c : Char) : Bool :=
  '0' ≤ c && c ≤ '9'

/-- Split the digits off the front of a text. -/
def takeDigits (cs : List Char) : List Nat × List Char :=
  ((cs.takeWhile isDigit).map fun c => c.toNat - 48, cs.dropWhile isDigit)

/-- The fault of a text that should go on with a digit. -/
def digitLapse : List Char → Lapse
  | [] => .cut
  | _ :: _ => .stray

def readExponent (numeral : Numeral) (cs : List Char) :
    Draft × Option (List Char) :=
  match cs with
  | [] => (.number numeral, some [])
  | c :: rest =>
      if c = 'e' ∨ c = 'E' then
        let (minus, rest) := match rest with
          | '+' :: rest => (false, rest)
          | '-' :: rest => (true, rest)
          | rest => (false, rest)
        match takeDigits rest with
        | ([], rest) => (.brokenNumber (digitLapse rest), none)
        | (digits, rest) =>
            (.number { numeral with exponent := some (minus, digits) }, some rest)
      else (.number numeral, some (c :: rest))

/-- Read the fraction and the exponent of a numeral, if it has them. -/
def readFraction (numeral : Numeral) (cs : List Char) :
    Draft × Option (List Char) :=
  match cs with
  | '.' :: rest =>
      match takeDigits rest with
      | ([], rest) => (.brokenNumber (digitLapse rest), none)
      | (digits, rest) => readExponent { numeral with fraction := some digits } rest
  | cs => readExponent numeral cs

def readNumeral (negative : Bool) (cs : List Char) : Draft × Option (List Char) :=
  match takeDigits cs with
  | ([], rest) => (.brokenNumber (digitLapse rest), none)
  | (0 :: _ :: _, _) => (.brokenNumber .stray, none)
  | (digits, rest) => readFraction ⟨negative, digits, none, none⟩ rest

/-- Read the rest of a word that stands for a value. -/
def readWord (value : Draft) : (word : List Char) → List Char →
    Draft × Option (List Char)
  | [], rest => (value, some rest)
  | _ :: _, [] => (.brokenWord .cut, none)
  | expected :: word, c :: rest =>
      if c = expected then readWord value word rest else (.brokenWord .stray, none)

/-- Read a value other than an array or an object; the text starts with it. -/
def readScalar (c : Char) (rest : List Char) : Draft × Option (List Char) :=
  if c = '"' then
    let (raw, rest) := readString [] rest
    (.string raw, rest)
  else if c = '-' then readNumeral true rest
  else if isDigit c then readNumeral false (c :: rest)
  else if c = 'n' then readWord .null ['u', 'l', 'l'] rest
  else if c = 't' then readWord (.bool true) ['r', 'u', 'e'] rest
  else if c = 'f' then readWord (.bool false) ['a', 'l', 's', 'e'] rest
  else (.missing .stray, none)

/-- The nesting of arrays and objects from which on they are too deep to be
used. -/
def depthLimit : Nat := 128

mutual

/-- Read a value that lies inside `depth` arrays and objects. Gives the text
behind it unless a fault was met. -/
def readValue : (fuel : Nat) → (depth : Nat) → List Char →
    Draft × Option (List Char)
  | 0, _, _ => (.missing .cut, none)
  | fuel + 1, depth, cs =>
      match skipSpace cs with
      | [] => (.missing .cut, none)
      | '[' :: rest =>
          let deep := decide (depthLimit ≤ depth + 1)
          match skipSpace rest with
          | ']' :: rest => (.array deep [] none, some rest)
          | [] => (.array deep [] (some .cut), none)
          | rest =>
              let (items, lapse, rest) := readItems fuel (depth + 1) rest
              (.array deep items lapse, rest)
      | '\x7b' :: rest =>
          let (members, ending, rest) := readMembers fuel (depth + 1) false rest
          (.object (decide (depthLimit ≤ depth + 1)) members ending, rest)
      | c :: rest => readScalar c rest

/-- Read the items of an array up to its closing bracket. -/
def readItems : (fuel : Nat) → (depth : Nat) → List Char →
    List Draft × Option Lapse × Option (List Char)
  | 0, _, _ => ([], some .cut, none)
  | fuel + 1, depth, cs =>
      match readValue fuel depth cs with
      | (item, none) => ([item], none, none)
      | (item, some rest) =>
          match skipSpace rest with
          | ']' :: rest => ([item], none, some rest)
          | ',' :: rest =>
              let (items, lapse, rest) := readItems fuel depth rest
              (item :: items, lapse, rest)
          | [] => ([item], some .cut, none)
          | _ :: _ => ([item], some .stray, none)

/-- Read the members of an object up to its closing brace, which may not come
first after a comma. -/
def readMembers : (fuel : Nat) → (depth : Nat) → (afterComma : Bool) → List Char →
    List (RawString × Draft) × Ending × Option (List Char)
  | 0, _, _, _ => ([], .cut, none)
  | fuel + 1, depth, afterComma, cs =>
      match skipSpace cs with
      | [] => ([], .cut, none)
      | '"' :: rest =>
          match readString [] rest with
          | (name, none) => ([(name, .missing .cut)], .closed, none)
          | (name, some rest) =>
              match skipSpace rest with
              | ':' :: rest =>
                  match readValue fuel depth rest with
                  | (value, none) => ([(name, value)], .closed, none)
                  | (value, some rest) =>
                      match skipSpace rest with
                      | '\x7d' :: rest => ([(name, value)], .closed, some rest)
                      | ',' :: rest =>
                          let (members, ending, rest) :=
                            readMembers fuel depth true rest
                          ((name, value) :: members, ending, rest)
                      | [] => ([(name, value)], .unclosed .cut, none)
                      | _ :: _ => ([(name, value)], .unclosed .stray, none)
              | [] => ([(name, .missing .cut)], .closed, none)
              | _ :: _ => ([(name, .missing .stray)], .closed, none)
      | c :: rest =>
          if c = '\x7d' ∧ afterComma = false then ([], .closed, some rest)
          else ([], .misplaced, none)

end

/-- Read a whole text. The second part is the fault behind the value, if there
is one. -/
def read (text : String) : Draft × Option Lapse :=
  let cs := text.toList
  match readValue (2 * cs.length + 2) 0 cs with
  | (draft, none) => (draft, none)
  | (draft, some rest) =>
      (draft, if (skipSpace rest).isEmpty then none else some .stray)

end Draft

namespace Json

/-- Read a text as a value. -/
def parse (text : String) : Except Lapse Json :=
  match Draft.read text with
  | (draft, lapse) =>
      match draft.toJson, lapse with
      | .ok value, none => .ok value
      | .ok _, some lapse => .error lapse
      | .error lapse, _ => .error lapse

end Json

end GraphTable
