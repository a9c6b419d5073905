/-!
# Blank characters

White space is the Unicode property `White_Space`, twenty-five code points.
Trimming removes it from both ends of a text and leaves the inside alone.
-/

namespace GraphTable.Text

/-- Decide whether a character has the property `White_Space`. -/
def isBlank (c : Char) : Bool :=
  let n := c.toNat
  (9 ≤ n && n ≤ 13) || n == 0x20 || n == 0x85 || n == 0xA0 || n == 0x1680 ||
    (0x2000 ≤ n && n ≤ 0x200A) || n == 0x2028 || n == 0x2029 || n == 0x202F ||
    n == 0x205F || n == 0x3000

def trimStart (cs : List Char) : List Char :=
  cs.dropWhile isBlank

def trimEnd (cs : List Char) : List Char :=
  (cs.reverse.dropWhile isBlank).reverse

def trim (s : String) : String :=
  String.ofList (trimEnd (trimStart s.toList))

def isAllBlank (s : String) : Bool :=
  s.toList.all isBlank

end GraphTable.Text
