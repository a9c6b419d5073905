/-!
# Words

Whole numbers in inputs and messages are words of a fixed number of bits.
-/

namespace GraphTable.Word

/-- The least number that does not fit into a number of bits. -/
def limit (bits : Nat) : Nat :=
  Nat.pow 2 bits

end GraphTable.Word
