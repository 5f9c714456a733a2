/-!
# Shortest decimals

A finite positive number of the binary format `binary64` is `mantissa · 2 ^ exponent`. Every real
number nearer to it than to its neighbours reads back as it, and so do the two midpoints when the
mantissa is even. Of the decimals in this interval the shortest are those on the coarsest grid of
multiples of a power of ten that meets it. On that grid one of the two neighbours of the number
lies in the interval; the nearer one is taken, and of two equally near ones the greater.

All arithmetic is exact, in natural numbers.

## Main definitions

* `EcmaLex.Binary` : a finite number of the format, with its distance to the number below.
* `EcmaLex.Decimal` : a number written as digits times a power of ten.
* `EcmaLex.Binary.shortest` : the shortest decimal that reads back.
-/

namespace EcmaLex

/-- The number `digits · 10 ^ exponent`. -/
structure Decimal where
  digits : Nat
  exponent : Int
  deriving DecidableEq, Repr

/-- The number `mantissa · 2 ^ exponent` of the binary format. -/
structure Binary where
  mantissa : Nat
  exponent : Int
  /-- Whether the number below is half as far away as the number above. -/
  closeBelow : Bool
  deriving DecidableEq, Repr

namespace Binary

/-- Compares `a · 10 ^ k` with `b · 2 ^ e`. -/
def compareScaled (a : Nat) (k : Int) (b : Nat) (e : Int) : Ordering :=
  compare (a * Nat.pow 10 k.toNat * Nat.pow 2 (-e).toNat)
    (b * Nat.pow 2 e.toNat * Nat.pow 10 (-k).toNat)

/-- Whether the decimal `d` reads back as `x`. Distances are counted in quarters of the last
bit. -/
def readsBack (x : Binary) (d : Decimal) : Bool :=
  let below := 4 * x.mantissa - (if x.closeBelow then 1 else 2)
  let above := 4 * x.mantissa + 2
  let even := x.mantissa % 2 == 0
  let low := compareScaled d.digits d.exponent below (x.exponent - 2)
  let high := compareScaled d.digits d.exponent above (x.exponent - 2)
  (low == .gt || low == .eq && even) && (high == .lt || high == .eq && even)

/-- The greatest multiple of `10 ^ k` that is not above `x`. -/
def floorAt (x : Binary) (k : Int) : Nat :=
  x.mantissa * Nat.pow 2 x.exponent.toNat * Nat.pow 10 (-k).toNat /
    (Nat.pow 2 (-x.exponent).toNat * Nat.pow 10 k.toNat)

/-- The decimal on the grid of multiples of `10 ^ k` that reads back as `x` and lies nearest to
it. -/
def onGrid? (x : Binary) (k : Int) : Option Decimal :=
  let lo : Decimal := ⟨x.floorAt k, k⟩
  let hi : Decimal := ⟨x.floorAt k + 1, k⟩
  match x.readsBack lo, x.readsBack hi with
  | true, true =>
    let nearer := compareScaled (2 * lo.digits + 1) k (2 * x.mantissa) x.exponent
    some (if nearer == .gt then lo else hi)
  | true, false => some lo
  | false, true => some hi
  | false, false => none

/-- The decimal on the first grid that meets the interval of `x`, of `fuel` grids of which each is
ten times as fine as the one before. -/
def coarsest : Nat → Binary → Int → Decimal
  | 0, x, k => ⟨x.floorAt k, k⟩
  | fuel + 1, x, k => (x.onGrid? k).getD (coarsest fuel x (k - 1))

/-- A power of ten above `x`. -/
def exponentAbove (x : Binary) : Int :=
  (x.mantissa.log2 + x.exponent) * 30103 / 100000 + 2

/-- The shortest decimal that reads back as `x`, and of those the nearest. Seventeen digits are
enough for every number of the format. -/
def shortest (x : Binary) : Decimal := coarsest 21 x x.exponentAbove

end Binary

end EcmaLex
