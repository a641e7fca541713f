/-!
# Sets of characters given by intervals of code points

A standard states a property of characters as a table of intervals. `CodeRanges` is such a table
and `contains` asks it:

    rs.contains c ↔ some interval of `rs` holds the code point of `c`     (contains_iff)
-/

namespace AppLinks

/-- Intervals of code points, both ends included. -/
abbrev CodeRanges := List (Nat × Nat)

namespace CodeRanges

def contains (rs : CodeRanges) (c : Char) : Bool :=
  rs.any fun r => r.1 ≤ c.toNat && c.toNat ≤ r.2

theorem contains_iff (rs : CodeRanges) (c : Char) :
    rs.contains c = true ↔ ∃ r ∈ rs, r.1 ≤ c.toNat ∧ c.toNat ≤ r.2 := by
  simp [contains]

end CodeRanges

end AppLinks
