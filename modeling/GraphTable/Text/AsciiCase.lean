/-!
# ASCII letter case

Letters `A` to `Z` and `a` to `z` are paired; every other character, also a
letter beyond ASCII, stands for itself.
-/

namespace GraphTable.Text

/-- Map `A` to `Z` to their small letters. -/
def lowerChar (c : Char) : Char :=
  if 'A' ≤ c ∧ c ≤ 'Z' then Char.ofNat (c.toNat + 32) else c

/-- Map every capital ASCII letter of a text to its small letter. -/
def lower (s : String) : String :=
  String.ofList (s.toList.map lowerChar)

/-- Compare two texts without regard to the case of ASCII letters. -/
def sameIgnoringCase (s t : String) : Bool :=
  lower s == lower t

end GraphTable.Text
