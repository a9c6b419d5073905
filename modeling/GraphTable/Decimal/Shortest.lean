/-!
# Shortest decimals

A finite binary64 value stands for every real that rounds to it. Among the
decimals in that interval the shortest is the one with the fewest digits, and
of two such the one nearer to the value. All arithmetic is exact, on naturals.
-/

namespace GraphTable.Decimal

/-- A finite value without its sign, `m * 2 ^ q`. -/
structure Binary where
  m : Nat
  q : Int
  /-- The gap to the value below is half the gap to the value above. -/
  narrowBelow : Bool

/-- Read a finite value off its bits; the sign bit is ignored. -/
def Binary.ofBits (bits : UInt64) : Binary :=
  let exponent := ((bits >>> 52) &&& 0x7FF).toNat
  let fraction := (bits &&& 0xFFFFFFFFFFFFF).toNat
  if exponent = 0 then ⟨fraction, -1074, false⟩
  else ⟨0x10000000000000 + fraction, (exponent : Int) - 1075,
    fraction == 0 && decide (1 < exponent)⟩

/-- The decimal `digits * 10 ^ exponent`. -/
structure Digits where
  digits : Nat
  exponent : Int
  deriving Repr, DecidableEq

/-- Compare `a * 10 ^ i` with `b * 2 ^ j`. -/
def compareScaled (a : Nat) (i : Int) (b : Nat) (j : Int) : Ordering :=
  compare (a * Nat.pow 10 i.toNat * Nat.pow 2 (-j).toNat)
    (b * Nat.pow 2 j.toNat * Nat.pow 10 (-i).toNat)

/-- Decide whether a decimal rounds to the value. The ends of the interval
belong to it exactly when `m` is even. -/
def Binary.admits (x : Binary) (d : Digits) : Bool :=
  let low := if x.narrowBelow then 4 * x.m - 1 else 4 * x.m - 2
  let atLow := compareScaled d.digits d.exponent low (x.q - 2)
  let atHigh := compareScaled d.digits d.exponent (4 * x.m + 2) (x.q - 2)
  let closed := x.m % 2 == 0
  (atLow == .gt || (closed && atLow == .eq)) &&
    (atHigh == .lt || (closed && atHigh == .eq))

/-- Find the least exponent `k` with `m * 2 ^ q < 10 ^ k`, correcting an
estimate upwards or downwards by single steps. -/
def Binary.scale (x : Binary) : Int :=
  let estimate := ((Nat.log2 x.m : Int) + x.q) * 30103 / 100000
  let below (k : Int) := compareScaled 1 k x.m x.q == .gt
  ((List.range 6).map fun n : Nat => estimate - 2 + (n : Int)).find? below
    |>.getD (estimate + 3)

/-- The largest multiple of `10 ^ exponent` that is not above the value. -/
def Binary.floorAt (x : Binary) (exponent : Int) : Nat :=
  (x.m * Nat.pow 2 x.q.toNat * Nat.pow 10 (-exponent).toNat) /
    (Nat.pow 2 (-x.q).toNat * Nat.pow 10 exponent.toNat)

/-- Choose on the grid of multiples of `10 ^ exponent` a neighbour that rounds
to the value, the nearer one if both do and the even one if they are equally
near. -/
def Binary.onGrid (x : Binary) (exponent : Int) : Option Digits :=
  let below := x.floorAt exponent
  let down : Digits := ⟨below, exponent⟩
  let up : Digits := ⟨below + 1, exponent⟩
  match x.admits down, x.admits up with
  | true, false => some down
  | false, true => some up
  | false, false => none
  | true, true =>
      match compareScaled (2 * below + 1) exponent (2 * x.m) x.q with
      | .gt => some down
      | .lt => some up
      | .eq => some (if below % 2 = 0 then down else up)

/-- Move trailing zeros of the digits into the exponent, at most `fuel` of
them. -/
def Digits.strip : (fuel : Nat) → Digits → Digits
  | 0, d => d
  | fuel + 1, d =>
      if d.digits % 10 = 0 then
        Digits.strip fuel ⟨d.digits / 10, d.exponent + 1⟩
      else d

/-- Find the shortest decimal of a value other than zero; were none of at most
seventeen digits admitted, give the exact value. -/
def Binary.shortest (x : Binary) : Digits :=
  let top := x.scale
  let found := (List.range 17).findSome? fun n : Nat => x.onGrid (top - (n : Int) - 1)
  match found with
  | some d => d.strip 20
  | none => ⟨x.m * Nat.pow 2 x.q.toNat * Nat.pow 5 (-x.q).toNat, min x.q 0⟩

end GraphTable.Decimal
