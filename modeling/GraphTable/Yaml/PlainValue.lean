import GraphTable.Json.Value
import GraphTable.Word

/-!
# What plain scalars stand for

A plain scalar may stand for null, a truth value or a number. Whole numbers are
decimal or have a radix in front; a decimal with a needless zero in front is a
text.
-/

namespace GraphTable.Yaml

def isNull (text : String) : Bool :=
  text == "null" || text == "Null" || text == "NULL" || text == "~"

def bool? (text : String) : Option Bool :=
  if text = "true" ∨ text = "True" ∨ text = "TRUE" then some true
  else if text = "false" ∨ text = "False" ∨ text = "FALSE" then some false
  else none

/-- The value of a digit in any radix. -/
def digit? (radix : Nat) (c : Char) : Option Nat :=
  let value? :=
    if '0' ≤ c ∧ c ≤ '9' then some (c.toNat - 48)
    else if 'a' ≤ c ∧ c ≤ 'z' then some (c.toNat - 87)
    else if 'A' ≤ c ∧ c ≤ 'Z' then some (c.toNat - 55)
    else none
  value?.filter (· < radix)

/-- Read digits in a radix; there is one at least. -/
def amount? (radix : Nat) (digits : List Char) : Option Nat :=
  if digits.isEmpty then none
  else digits.foldlM (fun n c => (digit? radix c).map (n * radix + ·)) 0

def startsWithSign : List Char → Bool
  | '+' :: _ | '-' :: _ => true
  | _ => false

def withoutSign : List Char → List Char
  | '+' :: rest | '-' :: rest => rest
  | cs => cs

def withoutPlus : List Char → List Char
  | '+' :: rest => rest
  | cs => cs

/-- Decide whether a text is a decimal with a needless zero in front. -/
def hasNeedlessZero (cs : List Char) : Bool :=
  match withoutSign cs with
  | '0' :: c :: rest => (c :: rest).all Char.isDigit
  | _ => false

/-- Split off the mark of a radix. -/
def splitRadix? : List Char → Option (Nat × List Char)
  | '0' :: 'x' :: rest => some (16, rest)
  | '0' :: 'o' :: rest => some (8, rest)
  | '0' :: 'b' :: rest => some (2, rest)
  | _ => none

def natural? (text : String) : Option Nat :=
  let cs := withoutPlus text.toList
  match splitRadix? cs with
  | some (radix, digits) => amount? radix digits
  | none => if hasNeedlessZero text.toList then none else amount? 10 cs

def negative? (text : String) : Option Nat :=
  match text.toList with
  | '-' :: cs =>
      match splitRadix? cs with
      | some (radix, digits) => amount? radix digits
      | none => if hasNeedlessZero cs then none else amount? 10 cs
  | _ => none

/-- A number as it is read from a plain scalar. -/
inductive Whole where
  | fits (value : Int)
  /-- A number of more than 64 and at most 128 bits. -/
  | wide
  deriving Repr, DecidableEq

/-- Read a whole number of at most 128 bits. -/
def whole? (text : String) : Option Whole :=
  match natural? text with
  | some n =>
      if n < Word.limit 64 then some (.fits n)
      else if n < Word.limit 128 then some .wide
      else none
  | none =>
      match negative? text with
      | some n =>
          if n ≤ Word.limit 63 then some (.fits (-n))
          else if n ≤ Word.limit 127 then some .wide
          else none
      | none => none

structure Decimal where
  whole : List Char
  fraction : List Char
  exponent : Int

/-- Read the exponent of a decimal; without one it is zero. -/
def exponent? : List Char → Option Int
  | [] => some 0
  | c :: rest =>
      if c = 'e' ∨ c = 'E' then
        let minus := rest.head? == some '-'
        (amount? 10 (withoutSign rest)).map fun n => if minus then -n else n
      else none

/-- Read a decimal without sign. -/
def decimal? (cs : List Char) : Option Decimal :=
  let whole := cs.takeWhile Char.isDigit
  let (fraction, rest) := match cs.dropWhile Char.isDigit with
    | '.' :: rest => (rest.takeWhile Char.isDigit, rest.dropWhile Char.isDigit)
    | rest => ([], rest)
  if whole.isEmpty && fraction.isEmpty then none
  else (exponent? rest).map fun exponent => ⟨whole, fraction, exponent⟩

/-- Every amount with a greater decimal exponent is too large for binary64, and
every amount with a smaller negative one is zero. -/
def exponentBound : Int := 400

/-- The nearest float to a decimal; none if it is too large. -/
def Decimal.toFloat? (d : Decimal) : Option Float :=
  let digits := (d.whole ++ d.fraction).foldl (fun n c => n * 10 + (c.toNat - 48)) 0
  let places := d.exponent - d.fraction.length
  let size := places + (toString digits).length
  if digits = 0 ∨ size < -exponentBound then some 0.0
  else if exponentBound < size then none
  else
    let x := Float.ofScientific digits (decide (places < 0)) places.natAbs
    if x.isFinite then some x else none

/-- What a plain scalar stands for as a float. -/
inductive Floating where
  | finite (value : Float)
  /-- An infinity, or no number. -/
  | special

/-- The texts of the infinities without plus sign. -/
def infinities : List String :=
  [".inf", ".Inf", ".INF", "-.inf", "-.Inf", "-.INF"]

/-- The texts of what is no number. -/
def notNumbers : List String :=
  [".nan", ".NaN", ".NAN"]

def float? (text : String) : Option Floating :=
  let cs := text.toList
  let unsigned := withoutPlus cs
  if cs.head? == some '+' && startsWithSign unsigned then none
  else if infinities.contains (String.ofList unsigned) || notNumbers.contains text then
    some .special
  else
    match unsigned with
    | '-' :: rest => ((decimal? rest).bind Decimal.toFloat?).map fun x => .finite (-x)
    | rest => ((decimal? rest).bind Decimal.toFloat?).map .finite

/-- What a plain scalar without tag stands for. None for a number that no value
can hold. -/
def plainJson (text : String) : Option Json :=
  if text = "" ∨ isNull text then some .null
  else match bool? text with
    | some value => some (.bool value)
    | none =>
        match whole? text with
        | some (.fits n) => some (.number (.int n))
        | some .wide => none
        | none =>
            if hasNeedlessZero text.toList then some (.string text)
            else match float? text with
              | some (.finite x) => some (.number (.float x))
              | some .special => some .null
              | none => some (.string text)

end GraphTable.Yaml
