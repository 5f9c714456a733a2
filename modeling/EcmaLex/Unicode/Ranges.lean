/-!
# Ranges of code points

A property of characters is tabulated as the ranges of code points that have it.
-/

namespace EcmaLex.Unicode

/-- Inclusive ranges of code points, in increasing order. -/
abbrev Ranges := Array (Nat × Nat)

/-- Whether one of the ranges holds the code point of `c`. -/
def Ranges.holds (table : Ranges) (c : Char) : Bool :=
  table.any fun (lo, hi) => lo ≤ c.toNat && c.toNat ≤ hi

end EcmaLex.Unicode
