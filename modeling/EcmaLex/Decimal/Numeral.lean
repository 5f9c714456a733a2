import EcmaLex.Decimal.Shortest

/-!
# Numerals

The numeral of a floating point number is its shortest decimal, written out in full: never with an
exponent, with a point only when there are digits behind it, and with a sign only when the number
has one, a negative zero included.

## Main definitions

* `EcmaLex.Decimal.numeral` : a decimal written out.
* `EcmaLex.Float64` : the kinds of floating point numbers, read off their bits.
* `EcmaLex.floatNumeral` : the numeral of a floating point number.
-/

namespace EcmaLex

/-- A run of `n` zeros. -/
def zeros (n : Nat) : List Char := List.replicate n '0'

/-- A decimal written out in full. -/
def Decimal.numeral (d : Decimal) : List Char :=
  let digits := Nat.toDigits 10 d.digits
  let fraction := (-d.exponent).toNat
  if fraction = 0 then
    digits ++ zeros d.exponent.toNat
  else if fraction < digits.length then
    let whole := digits.length - fraction
    digits.take whole ++ '.' :: digits.drop whole
  else
    '0' :: '.' :: zeros (fraction - digits.length) ++ digits

/-- The kinds of numbers of the format `binary64`, signs apart. A `finite` number is not zero. -/
inductive Float64
  | nan
  | infinite
  | zero
  | finite (x : Binary)
  deriving DecidableEq, Repr

/-- The number that the exponent and fraction fields of the format stand for. -/
def Float64.ofFields (exponent fraction : Nat) : Float64 :=
  if exponent = 2047 then
    if fraction = 0 then infinite else nan
  else if exponent = 0 then
    if fraction = 0 then zero else finite ⟨fraction, -1074, false⟩
  else
    finite ⟨Nat.pow 2 52 + fraction, exponent - 1075, fraction = 0 && exponent != 1⟩

/-- The number that 64 bits stand for, its sign apart. -/
def Float64.ofBits (bits : Nat) : Float64 :=
  ofFields (bits / Nat.pow 2 52 % 2048) (bits % Nat.pow 2 52)

/-- A number written out, its sign apart. -/
def Float64.numeral : Float64 → List Char
  | nan => "NaN".toList
  | infinite => "inf".toList
  | zero => ['0']
  | finite x => x.shortest.numeral

/-- The numeral of a floating point number. -/
def floatNumeral (x : Float) : List Char :=
  let bits := x.toBits.toNat
  match Float64.ofBits bits with
  | .nan => Float64.nan.numeral
  | y => if bits < Nat.pow 2 63 then y.numeral else '-' :: y.numeral

end EcmaLex
