import GraphTable.Json.Value
import GraphTable.Word

/-!
# Numerals

A numeral is the written form of a JSON number. A numeral without fraction and
exponent is an integer if it fits into 64 bits, signed or unsigned. Every other
numeral is a float: the digits are gathered in an unsigned 64-bit integer until
it would overflow, further digits count only by their place, and the integer
is then scaled by a power of ten in binary64 arithmetic.
-/

namespace GraphTable

structure Numeral where
  negative : Bool
  whole : List Nat
  fraction : Option (List Nat)
  /-- The sign, true for minus, and the digits of the exponent. -/
  exponent : Option (Bool × List Nat)
  deriving Repr, DecidableEq

namespace Numeral

/-- Take digits into an amount as long as it stays below the limit. Gives the
amount and the digits that were not taken. -/
def gather (amount : Nat) : List Nat → Nat × List Nat
  | [] => (amount, [])
  | d :: rest =>
      if amount * 10 + d < Word.limit 64 then gather (amount * 10 + d) rest
      else (amount, d :: rest)

/-- The largest exponent a power of ten may have in one scaling step. -/
def stepExponent : Int := 308

def powerOfTen (n : Nat) : Float :=
  Float.ofScientific 1 false n

/-- Scale a float by a power of ten, dividing in steps when the exponent is
very small; an amount of 64 bits is zero after the second step. None when the
result is too large. -/
def scaled : (fuel : Nat) → Float → Int → Option Float
  | 0, x, _ => some x
  | fuel + 1, x, exponent =>
      if exponent.natAbs ≤ stepExponent.natAbs then
        if 0 ≤ exponent then
          let y := x * powerOfTen exponent.toNat
          if y.isInf then none else some y
        else some (x / powerOfTen (-exponent).toNat)
      else if x == 0.0 then some x
      else if 0 ≤ exponent then none
      else scaled fuel (x / powerOfTen 308) (exponent + stepExponent)

/-- The largest exponent that is read exactly. -/
def exponentLimit : Nat :=
  Word.limit 31

def digitsValue (digits : List Nat) : Nat :=
  digits.foldl (fun n d => n * 10 + d) 0

/-- Give a float the sign of the numeral. -/
def signed (numeral : Numeral) (x : Float) : Number :=
  .float (if numeral.negative then -x else x)

/-- Scale gathered digits by the places they stand away from the point and by
the written exponent. -/
def toFloat? (numeral : Numeral) (amount : Nat) (places : Int) : Option Number :=
  let x := amount.toUInt64.toFloat
  let scaledBy (exponent : Int) : Option Number :=
    (scaled 4 x exponent).map numeral.signed
  match numeral.exponent with
  | none => scaledBy places
  | some (minus, digits) =>
      let size := digitsValue digits
      if exponentLimit ≤ size then
        if amount ≠ 0 ∧ minus = false then none else some (numeral.signed 0.0)
      else scaledBy (if minus then places - size else places + size)

/-- The number a numeral stands for; none when it is too large for binary64. -/
def value? (numeral : Numeral) : Option Number :=
  let (amount, left) := gather 0 numeral.whole
  match numeral.fraction, numeral.exponent with
  | none, none =>
      if left ≠ [] then numeral.toFloat? amount left.length
      else if numeral.negative = false then some (.int amount)
      else if amount = 0 ∨ Word.limit 63 < amount then
        some (.float (-amount.toUInt64.toFloat))
      else some (.int (-amount))
  | fraction, _ =>
      let digits := fraction.getD []
      let (total, unread) := gather amount digits
      numeral.toFloat? total
        ((left.length : Int) - ((digits.length - unread.length : Nat) : Int))

end Numeral

end GraphTable
