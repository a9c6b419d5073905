import GraphTable.Decimal.Shortest

/-!
# Decimal notation of floating-point numbers

Numbers are positional from a hundred-thousandth up to sixteen digits before the
point, with a digit behind it at least. Beyond that one digit stands before the
point, and the exponent follows with its sign.
-/

namespace GraphTable.Decimal

def isPositional (exponent : Int) : Bool :=
  -5 ≤ exponent && exponent ≤ 15

def Digits.layout (d : Digits) : String :=
  let text := toString d.digits
  let exponent := d.exponent + (text.length : Int) - 1
  if isPositional exponent then
    if 0 ≤ d.exponent then text ++ "".pushn '0' d.exponent.toNat ++ ".0"
    else if 0 ≤ exponent then
      let whole := exponent.toNat + 1
      String.ofList (text.toList.take whole) ++ "." ++
        String.ofList (text.toList.drop whole)
    else "0." ++ "".pushn '0' (-exponent - 1).toNat ++ text
  else
    let mantissa := match text.toList with
      | [] | [_] => text
      | first :: rest => String.ofList (first :: '.' :: rest)
    let sign := if exponent < 0 then "-" else "+"
    mantissa ++ "e" ++ sign ++ toString exponent.natAbs

/-- Write a finite number with the fewest digits that read back. -/
def write (x : Float) : String :=
  let bits := x.toBits
  let sign := if bits >>> 63 == 1 then "-" else ""
  let value := Binary.ofBits bits
  sign ++ (if value.m = 0 then "0.0" else value.shortest.layout)

end GraphTable.Decimal
