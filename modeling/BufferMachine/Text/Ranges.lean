/-!
# Ranges of code points

A property of characters is given as a list of ranges with both ends, from the smallest to the
largest.
-/

namespace BufferMachine.Text

def inRanges (ranges : List (Nat × Nat)) (code : Nat) : Bool :=
  ranges.any fun (low, high) => low ≤ code && code ≤ high

end BufferMachine.Text
