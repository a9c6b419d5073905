/-!
# UTF-8

Reading bytes as text either gives the text or the place of the first fault:
the number of good bytes before it and the length of the faulty sequence,
which is unknown when the bytes end inside a sequence that is good so far.
-/

namespace GraphTable.Text

structure Utf8Fault where
  index : Nat
  /-- The length of the faulty sequence; none when the bytes end too early. -/
  length : Option Nat
  deriving Repr, DecidableEq

def Utf8Fault.message (fault : Utf8Fault) : String :=
  match fault.length with
  | some n => s!"invalid utf-8 sequence of {n} bytes from index {fault.index}"
  | none => s!"incomplete utf-8 byte sequence from index {fault.index}"

/-- The bounds of the second byte and the number of bytes after it, by the
first byte of a sequence; none for a byte that starts no sequence of several
bytes. -/
def utf8Lead (b : UInt8) : Option (UInt8 × UInt8 × Nat) :=
  if 0xC2 ≤ b ∧ b ≤ 0xDF then some (0x80, 0xBF, 0)
  else if b = 0xE0 then some (0xA0, 0xBF, 1)
  else if b = 0xED then some (0x80, 0x9F, 1)
  else if 0xE1 ≤ b ∧ b ≤ 0xEF then some (0x80, 0xBF, 1)
  else if b = 0xF0 then some (0x90, 0xBF, 2)
  else if 0xF1 ≤ b ∧ b ≤ 0xF3 then some (0x80, 0xBF, 2)
  else if b = 0xF4 then some (0x80, 0x8F, 2)
  else none

/-- Read the bytes after the second one of a sequence. `seen` bytes of it were
good. Gives the code point and the bytes that follow. -/
def utf8Tail (seen : Nat) : (missing : Nat) → (point : Nat) → List UInt8 →
    Except (Option Nat) (Nat × List UInt8)
  | 0, point, rest => .ok (point, rest)
  | _ + 1, _, [] => .error none
  | missing + 1, point, b :: rest =>
      if 0x80 ≤ b ∧ b ≤ 0xBF then
        utf8Tail (seen + 1) missing (point * 64 + (b.toNat - 0x80)) rest
      else .error (some seen)

/-- Read one character. The error is the length of the faulty sequence. -/
def utf8Char (b : UInt8) (rest : List UInt8) :
    Except (Option Nat) (Nat × List UInt8) :=
  if b < 0x80 then .ok (b.toNat, rest)
  else match utf8Lead b with
    | none => .error (some 1)
    | some (low, high, missing) =>
        match rest with
        | [] => .error none
        | c :: rest =>
            if low ≤ c ∧ c ≤ high then
              let mark :=
                if missing = 0 then 0xC0 else if missing = 1 then 0xE0 else 0xF0
              utf8Tail 2 missing ((b.toNat - mark) * 64 + (c.toNat - 0x80)) rest
            else .error (some 1)

/-- Read bytes as characters; `fuel` bounds their number and `index` counts the
bytes already read. -/
def utf8Chars : (fuel : Nat) → (index : Nat) → List UInt8 →
    Except Utf8Fault (List Char)
  | _, _, [] => .ok []
  | 0, _, _ :: _ => .ok []
  | fuel + 1, index, b :: rest =>
      match utf8Char b rest with
      | .error length => .error ⟨index, length⟩
      | .ok (point, after) =>
          match utf8Chars fuel (index + (Char.ofNat point).utf8Size) after with
          | .error fault => .error fault
          | .ok cs => .ok (Char.ofNat point :: cs)

def decodeUtf8 (bytes : List UInt8) : Except Utf8Fault String :=
  (utf8Chars bytes.length 0 bytes).map String.ofList

def encodeUtf8 (s : String) : List UInt8 :=
  s.toList.flatMap String.utf8EncodeChar

end GraphTable.Text
