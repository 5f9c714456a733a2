/-!
# Runs of code points

The characters with a property, of those between two code points, are listed as runs of
consecutive numbers. The surrogates and the numbers above the last code point are no characters.

## Main definitions

* `EcmaLex.codePointRanges` : the runs of the characters with a property.
-/

namespace EcmaLex

/-- The greatest code point. -/
def lastCodePoint : Nat := 0x10ffff

/-- Whether a number is the code point of a character with a property. -/
def holdsAt (p : Char → Bool) (n : Nat) : Bool := n.isValidChar && p (Char.ofNat n)

/-- Adds a number below all others to runs of consecutive numbers. -/
def consRun (n : Nat) : List (Nat × Nat) → List (Nat × Nat)
  | (lo, hi) :: runs => if n + 1 = lo then (n, hi) :: runs else (n, n) :: (lo, hi) :: runs
  | [] => [(n, n)]

/-- The runs of the characters with a property, of those with code points from `first` to
`last`. -/
def codePointRanges (p : Char → Bool) (first last : Nat) : List (Nat × Nat) :=
  let last := min last lastCodePoint
  let numbers := (List.range' first (last + 1 - first)).filter (holdsAt p)
  numbers.foldr consRun []

end EcmaLex
