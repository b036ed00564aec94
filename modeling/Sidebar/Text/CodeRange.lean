/-!
# Ranges of code points
-/

namespace Sidebar.Text

/-- The code points from the first to the second, both included. -/
abbrev CodeRange := Nat × Nat

/-- Whether a character lies in one of the ranges. -/
def covers (ranges : List CodeRange) (c : Char) : Bool :=
  ranges.any fun r => r.1 ≤ c.toNat && c.toNat ≤ r.2

end Sidebar.Text
