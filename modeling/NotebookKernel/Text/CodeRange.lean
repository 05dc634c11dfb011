/-!
# Ranges of code points

A set of characters as a list of closed ranges.
-/

namespace NotebookKernel.Unicode

/-- Does a range of the list hold the character? -/
def inRanges (ranges : List (Nat × Nat)) (c : Char) : Bool :=
  ranges.any fun (low, high) => low ≤ c.toNat && c.toNat ≤ high

end NotebookKernel.Unicode
