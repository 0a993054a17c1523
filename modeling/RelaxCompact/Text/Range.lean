/-! Sets of code points, given as inclusive ranges. -/

namespace RelaxCompact

/-- Inclusive ranges of code points. -/
abbrev Ranges := List (Nat × Nat)

def Ranges.contains (ranges : Ranges) (n : Nat) : Bool :=
  ranges.any fun range => range.1 ≤ n && n ≤ range.2

/-- The first range that holds `n`. -/
def Ranges.find? (ranges : Ranges) (n : Nat) : Option (Nat × Nat) :=
  List.find? (fun range => range.1 ≤ n && n ≤ range.2) ranges

end RelaxCompact
