import EcmaLex.Decimal.Numeral
import Mathlib.Algebra.Order.Field.Power
import Mathlib.Data.Rat.Cast.Order
import Mathlib.Tactic.NormNum
import Mathlib.Tactic.Ring

/-!
# Whole numbers in the format `binary64`

The format holds a number as 53 significant bits and a power of two, and an operation rounds its
result to the nearest number of the format. A result that is such a number is therefore kept as it
is, wherever the zeros at the end of its bits stand. Whole numbers up to `2 ^ 53` are numbers of the
format, so sums and products of them that do not exceed this bound are exact.

What a floating point number is, is read off its bits, with no use of its arithmetic.

## Main definitions

* `EcmaLex.floatValue?` : the rational number that a floating point number is.
* `EcmaLex.Binary.Normal` : the significant bits and the exponent of a normal number.

## Main results

* `EcmaLex.Binary.Normal.add_eq`, `EcmaLex.Binary.Normal.mul_eq` : a sum or a product that is a
  normal number is not rounded.
* `EcmaLex.floatValue?_ofNat` : whole numbers up to `2 ^ 53` are themselves.
* `EcmaLex.ofNat_add_ofNat`, `EcmaLex.ofNat_mul_ofNat` : their sums and products are exact up to
  this bound.
-/

namespace EcmaLex

open Float.Model (Format UnpackedFloat totalExponent)
open Float.Model.UnpackedFloat

/-! ### Exact values -/

/-- The number itself. -/
def Binary.value (x : Binary) : ℚ := x.mantissa * 2 ^ x.exponent

/-- The number that the fields of the format stand for, its sign apart, if it is finite. -/
def Float64.value? : Float64 → Option ℚ
  | nan => none
  | infinite => none
  | zero => some 0
  | finite x => some x.value

/-- The number that a floating point number is, if it is finite. -/
def floatValue? (x : Float) : Option ℚ :=
  let bits := x.toBits.toNat
  (Float64.ofBits bits).value?.map fun value => if bits < 2 ^ 63 then value else -value

namespace Binary

/-! ### Rounding -/

/-- The significant bits and the exponent of a normal number, which has all 53 bits, and an exponent
from the least to the greatest. -/
structure Normal (m : ℕ) (e : ℤ) : Prop where
  le_mantissa : 2 ^ 52 ≤ m
  mantissa_lt : m < 2 ^ 53
  le_exponent : -1074 ≤ e
  exponent_le : e ≤ 971

theorem log2_mul_two_pow {m : ℕ} (hm : m ≠ 0) (j : ℕ) : (m * 2 ^ j).log2 = m.log2 + j := by
  induction j with
  | zero => simp
  | succ j ih =>
    have hne : m * 2 ^ j ≠ 0 := Nat.mul_ne_zero hm (Nat.ne_of_gt (Nat.two_pow_pos j))
    rw [Nat.pow_succ, ← Nat.mul_assoc, Nat.mul_comm, Nat.log2_two_mul hne, ih, Nat.add_assoc]

/-- Zeros that are shifted out leave nothing to round. -/
theorem shiftRight_mul_two_pow (m j : ℕ) :
    ExtendedMantissa.ofMantissaAndAccuracy (m * 2 ^ j) .exact >>> j =
      ExtendedMantissa.ofMantissaAndAccuracy m .exact := by
  induction j generalizing m with
  | zero =>
    rw [Nat.pow_zero, Nat.mul_one]
    rfl
  | succ j ih =>
    have hsplit : m * 2 ^ (j + 1) = m * 2 * 2 ^ j := by rw [Nat.pow_succ', Nat.mul_assoc]
    change ExtendedMantissa.shiftRightOne
      (ExtendedMantissa.ofMantissaAndAccuracy (m * 2 ^ (j + 1)) .exact >>> j) = _
    rw [hsplit, ih]
    simp [ExtendedMantissa.shiftRightOne, ExtendedMantissa.ofMantissaAndAccuracy]

/-- Significant bits brought to a smaller exponent are the same number. -/
theorem decreaseExponent_value {e t : ℤ} (hle : t ≤ e) (m : ℕ) :
    ((decreaseExponent m e t).1 : ℚ) * 2 ^ t = m * 2 ^ e := by
  obtain ⟨j, rfl⟩ := Int.le.dest hle
  have hshift : (t + j - t).toNat = j := by omega
  rw [decreaseExponent, hshift, Nat.shiftLeft_eq, Nat.cast_mul, Nat.cast_pow, Nat.cast_ofNat,
    zpow_add₀ two_ne_zero, zpow_natCast, mul_assoc, mul_comm (2 ^ t : ℚ)]

/-- Two forms of one number differ by zeros at the end of their bits. -/
theorem exists_shift {m i : ℕ} {e t : ℤ} (h : (i : ℚ) * 2 ^ t = m * 2 ^ e) :
    (∃ j : ℕ, t = e + j ∧ m = i * 2 ^ j) ∨ ∃ j : ℕ, t = e - j ∧ i = m * 2 ^ j := by
  have htwo : (2 : ℚ) ≠ 0 := two_ne_zero
  rcases le_total e t with hle | hle
  · obtain ⟨j, rfl⟩ := Int.le.dest hle
    refine .inl ⟨j, rfl, ?_⟩
    rw [zpow_add₀ htwo, zpow_natCast, mul_comm (2 ^ e : ℚ), ← mul_assoc] at h
    exact_mod_cast (mul_right_cancel₀ (zpow_ne_zero e htwo) h).symm
  · obtain ⟨j, rfl⟩ := Int.le.dest hle
    refine .inr ⟨j, by omega, ?_⟩
    rw [zpow_add₀ htwo, zpow_natCast, mul_comm (2 ^ t : ℚ), ← mul_assoc] at h
    exact_mod_cast mul_right_cancel₀ (zpow_ne_zero t htwo) h

namespace Normal

variable {m a b i : ℕ} {e f g t : ℤ}

theorem pos (h : Normal m e) : 0 < m := Nat.lt_of_lt_of_le (Nat.two_pow_pos 52) h.le_mantissa

theorem log2_eq (h : Normal m e) : m.log2 = 52 :=
  (Nat.log2_eq_iff (Nat.ne_of_gt h.pos)).mpr ⟨h.le_mantissa, h.mantissa_lt⟩

/-- A normal number is rounded at its own exponent, with zeros behind its bits or without. -/
theorem targetExponent_eq (h : Normal m e) (j : ℕ) :
    Format.binary64.targetExponent (totalExponent (m * 2 ^ j) (e - j)) = e := by
  have hlow := h.le_exponent
  have hbits : Format.binary64.mantissaBits = 53 := rfl
  simp only [Format.targetExponent, totalExponent, hbits, Format.minExponent,
    log2_mul_two_pow (Nat.ne_of_gt h.pos), h.log2_eq]
  omega

theorem shiftToTargetExponent_eq (h : Normal m e) (j : ℕ) :
    shiftToTargetExponent Format.binary64 (m * 2 ^ j) (e - j) .exact =
      (ExtendedMantissa.ofMantissaAndAccuracy m .exact, e) := by
  have hshift : (e - (e - j)).toNat = j := by omega
  simp only [shiftToTargetExponent, h.targetExponent_eq, shiftToExponent, hshift,
    shiftRight_mul_two_pow]
  exact congrArg _ (by omega)

theorem roundWithAccuracy_eq (h : Normal m e) (s : Sign) (j : ℕ) :
    roundWithAccuracy Format.binary64 s (m * 2 ^ j) (e - j) .exact = .finite s m e h.pos := by
  have hrounded : (ExtendedMantissa.ofMantissaAndAccuracy m .exact).roundedMantissa = m := rfl
  -- what is rounded once is rounded again, in case that it has got one bit more
  have hagain := h.shiftToTargetExponent_eq 0
  rw [Nat.pow_zero, Nat.mul_one, Nat.cast_zero, Int.sub_zero] at hagain
  rw [roundWithAccuracy, h.shiftToTargetExponent_eq]
  dsimp only
  rw [hrounded, hagain]
  exact dif_neg (Nat.ne_of_gt h.pos)

/-- **A normal number is rounded to itself**, whichever form it is given in. -/
theorem round_eq (h : Normal m e) (s : Sign) (hvalue : (i : ℚ) * 2 ^ t = m * 2 ^ e) :
    UnpackedFloat.round Format.binary64 s i t = .finite s m e h.pos := by
  have hexact := h.roundWithAccuracy_eq s
  have htarget := h.targetExponent_eq
  rcases exists_shift hvalue with ⟨j, rfl, hm⟩ | ⟨j, rfl, rfl⟩
  · -- there are too few bits, so that zeros are put behind them
    have hi : i ≠ 0 := by
      rintro rfl
      exact Nat.ne_of_gt h.pos (hm.trans (Nat.zero_mul _))
    have htotal : totalExponent i (e + j) = totalExponent m e := by
      simp only [totalExponent, hm, log2_mul_two_pow hi]
      omega
    have hbits := hexact 0
    have hfixed := htarget 0
    rw [Nat.pow_zero, Nat.mul_one, Nat.cast_zero, Int.sub_zero] at hbits hfixed
    have hshift : (e + j - e).toNat = j := by omega
    have hround : UnpackedFloat.round Format.binary64 s i (e + j) =
        roundWithAccuracy Format.binary64 s m e .exact := by
      simp only [UnpackedFloat.round, htotal, hfixed, decreaseExponent, hshift, Nat.shiftLeft_eq,
        ← hm, add_sub_cancel_right]
    exact hround.trans hbits
  · have hshift : (e - j - e).toNat = 0 := by omega
    have hround : UnpackedFloat.round Format.binary64 s (m * 2 ^ j) (e - j) =
        roundWithAccuracy Format.binary64 s (m * 2 ^ j) (e - j) .exact := by
      simp only [UnpackedFloat.round, htarget, decreaseExponent, hshift, Nat.shiftLeft_zero,
        Nat.cast_zero, Int.sub_zero]
    exact hround.trans (hexact j)

/-- **A sum that is a normal number is not rounded.** -/
theorem add_eq (h : Normal m e) (ha : 0 < a) (hb : 0 < b)
    (hvalue : (a : ℚ) * 2 ^ f + b * 2 ^ g = m * 2 ^ e) :
    UnpackedFloat.add Format.binary64 (.finite .positive a f ha) (.finite .positive b g hb) =
      .finite .positive m e h.pos := by
  let t := min f g
  let i := (decreaseExponent a f t).1
  let j := (decreaseExponent b g t).1
  have hsum : ((i + j : ℕ) : ℚ) * 2 ^ t = m * 2 ^ e := by
    rw [Nat.cast_add, add_mul, decreaseExponent_value (min_le_left f g),
      decreaseExponent_value (min_le_right f g), hvalue]
  have hpos : 0 < i + j := by
    have hm : 0 < (m : ℚ) * 2 ^ e := mul_pos (Nat.cast_pos.mpr h.pos) (zpow_pos two_pos e)
    rw [← hsum] at hm
    exact Nat.cast_pos.mp (pos_of_mul_pos_left hm (zpow_nonneg zero_le_two t))
  have hcompare : compare ((i + j : ℕ) : ℤ) 0 = .gt :=
    Int.compare_eq_gt.mpr (Int.natCast_pos.mpr hpos)
  change UnpackedFloat.normalize Format.binary64 ((i + j : ℕ) : ℤ) t .positive = _
  rw [UnpackedFloat.normalize, hcompare]
  exact h.round_eq .positive hsum

/-- **A product of normal numbers that is a normal number is not rounded.** -/
theorem mul_eq (h : Normal m e) (ha : Normal a f) (hb : Normal b g)
    (hvalue : (a : ℚ) * 2 ^ f * (b * 2 ^ g) = m * 2 ^ e) :
    UnpackedFloat.mul Format.binary64 (.finite .positive a f ha.pos)
      (.finite .positive b g hb.pos) = .finite .positive m e h.pos := by
  have hproduct : ((a * b : ℕ) : ℚ) * 2 ^ (f + g) = m * 2 ^ e := by
    rw [← hvalue, zpow_add₀ two_ne_zero, Nat.cast_mul]
    ring
  have hmany : 2 ^ 53 < a * b :=
    Nat.lt_of_lt_of_le (by decide) (Nat.mul_le_mul ha.le_mantissa hb.le_mantissa)
  change roundWithAccuracy Format.binary64 .positive (a * b) (f + g) .exact = _
  rcases exists_shift hproduct with ⟨j, -, hm⟩ | ⟨j, hexponent, hbits⟩
  · -- the product has more bits than a number of the format
    have hle : a * b ≤ m := hm ▸ Nat.le_mul_of_pos_right _ (Nat.two_pow_pos j)
    have hlt := h.mantissa_lt
    omega
  · rw [hexponent, hbits]
    exact h.roundWithAccuracy_eq .positive j

end Normal

/-! ### Fields -/

/-- The number that bits stand for is told by two of their three fields. -/
theorem ofBits_toNat (bits : BitVec Format.binary64.numBits) :
    Float64.ofBits bits.toNat =
      .ofFields (unpackExponent bits).toNat (unpackMantissa bits).toNat := by
  simp [Float64.ofBits, unpackExponent, unpackMantissa, Nat.shiftRight_eq_div_pow]

/-- The third field is the sign. -/
theorem toNat_lt_iff (bits : BitVec Format.binary64.numBits) :
    bits.toNat < 2 ^ 63 ↔ unpackSign bits = Sign.positive.toBitVec := by
  have hlt : bits.toNat < 2 ^ 64 := bits.isLt
  have hsign : (unpackSign bits).toNat = bits.toNat / 2 ^ 63 % 2 := by
    change (bits.extractLsb 63 63).toNat = _
    rw [BitVec.extractLsb_toNat, Nat.shiftRight_eq_div_pow]
  rw [← BitVec.toNat_inj, hsign]
  change _ ↔ _ = 0
  omega

theorem unpackSign_packComponents (s : Sign) (exponent : BitVec 11) (mantissa : BitVec 52) :
    unpackSign (packComponents Format.binary64 s exponent mantissa) = s.toBitVec := by
  change (s.toBitVec ++ exponent ++ mantissa).extractLsb' 63 1 = s.toBitVec
  rw [BitVec.extractLsb'_append_eq_of_le (by decide),
    BitVec.extractLsb'_append_eq_of_le (by decide)]
  exact BitVec.extractLsb'_eq_self

/-- The first significant bit is not written. -/
theorem toNat_implicit (mantissa : BitVec 52) :
    (1#1 ++ mantissa).toNat = 2 ^ 52 + mantissa.toNat := by
  rw [BitVec.toNat_append, ← Nat.shiftLeft_add_eq_or_of_lt mantissa.isLt]
  rfl

namespace Normal

variable {m : ℕ} {e : ℤ}

theorem toNat_exponent (h : Normal m e) :
    (BitVec.ofNat 11 (e + 1075).toNat).toNat = (e + 1075).toNat := by
  have hhigh := h.exponent_le
  rw [BitVec.toNat_ofNat, Nat.mod_eq_of_lt (by omega)]

theorem toNat_mantissa (h : Normal m e) : (BitVec.ofNat 52 m).toNat = m - 2 ^ 52 := by
  have hle := h.le_mantissa
  have hlt := h.mantissa_lt
  rw [BitVec.toNat_ofNat]
  omega

/-- The field of the exponent is not the one of zero. -/
theorem exponent_ne_zero (h : Normal m e) : (e + 1075).toNat ≠ 0 := by
  have hlow := h.le_exponent
  omega

/-- The field of the exponent is not the one of infinity. -/
theorem exponent_ne_max (h : Normal m e) : (e + 1075).toNat ≠ 2047 := by
  have hhigh := h.exponent_le
  omega

theorem exponent_sub_bias (h : Normal m e) : ((e + 1075).toNat : ℤ) - 1075 = e := by
  have hlow := h.le_exponent
  omega

theorem implicit_add_mantissa (h : Normal m e) : 2 ^ 52 + (m - 2 ^ 52) = m :=
  Nat.add_sub_of_le h.le_mantissa

theorem pack_eq (h : Normal m e) (s : Sign) :
    UnpackedFloat.pack Format.binary64 (.finite s m e h.pos) =
      packComponents Format.binary64 s (BitVec.ofNat 11 (e + 1075).toNat) (BitVec.ofNat 52 m) := by
  have hhigh := h.exponent_le
  have hbias : e + Format.binary64.exponentBias + Format.binary64.mantissaBitsWithoutImplicit =
      e + 1075 := by
    change e + 1023 + 52 = _
    omega
  have hfits : ¬ 2 ^ Format.binary64.exponentBits ≤ (e + 1075).toNat + 1 := by
    change ¬ 2048 ≤ _
    omega
  have hbits : 52 + 1 = Format.binary64.mantissaBits := rfl
  unfold UnpackedFloat.pack
  simp only [hbias, if_neg hfits, h.log2_eq, if_pos hbits]

/-- A normal number is read back from its bits. -/
theorem unpack_pack (h : Normal m e) (s : Sign) :
    (Float.Model.pack (.finite s m e h.pos)).unpack = .finite s m e h.pos := by
  have hfinite : BitVec.ofNat 11 (e + 1075).toNat ≠ -1#11 := by
    rw [Ne, ← BitVec.toNat_inj, h.toNat_exponent]
    exact h.exponent_ne_max
  have hnormal : BitVec.ofNat 11 (e + 1075).toNat ≠ 0#11 := by
    rw [Ne, ← BitVec.toNat_inj, h.toNat_exponent]
    exact h.exponent_ne_zero
  have hbias : (Format.binary64.exponentBias : ℤ) + Format.binary64.mantissaBitsWithoutImplicit =
      1075 := rfl
  have hsign : Sign.ofBitVec s.toBitVec = s := by cases s <;> rfl
  change UnpackedFloat.unpack _ (UnpackedFloat.pack _ _) = _
  rw [h.pack_eq]
  refine (if_neg ?_).trans ((if_neg ?_).trans ((UnpackedFloat.finite.injEq ..).mpr ⟨?_, ?_, ?_⟩))
  · rwa [unpackExponent_packComponents]
  · rwa [unpackExponent_packComponents]
  · rw [unpackSign_packComponents, hsign]
  · rw [unpackMantissa_packComponents, toNat_implicit, h.toNat_mantissa, h.implicit_add_mantissa]
  · rw [unpackExponent_packComponents, h.toNat_exponent, hbias, h.exponent_sub_bias]

/-- A normal number is what its bits stand for. -/
theorem floatValue?_pack (h : Normal m e) :
    floatValue? ⟨Float.Model.pack (.finite .positive m e h.pos)⟩ = some ((m : ℚ) * 2 ^ e) := by
  have hbits : (⟨Float.Model.pack (.finite .positive m e h.pos)⟩ : Float).toBits.toNat =
      (packComponents Format.binary64 .positive (BitVec.ofNat 11 (e + 1075).toNat)
        (BitVec.ofNat 52 m)).toNat := congrArg BitVec.toNat (h.pack_eq .positive)
  have hsign := (toNat_lt_iff _).mpr (unpackSign_packComponents .positive
    (BitVec.ofNat 11 (e + 1075).toNat) (BitVec.ofNat 52 m))
  have hmantissa : Nat.pow 2 52 + (m - 2 ^ 52) = m := h.implicit_add_mantissa
  rw [floatValue?, hbits]
  simp only [ofBits_toNat, unpackExponent_packComponents, unpackMantissa_packComponents,
    h.toNat_exponent, h.toNat_mantissa, if_pos hsign, Float64.ofFields,
    if_neg h.exponent_ne_max, if_neg h.exponent_ne_zero, Float64.value?, value, hmantissa,
    h.exponent_sub_bias, Option.map_some]

end Normal

/-! ### Whole numbers -/

variable {m n : ℕ}

/-- A positive whole number up to `2 ^ 53` is a normal number. -/
theorem exists_normal (hpos : 0 < n) (hle : n ≤ 2 ^ 53) :
    ∃ m e, ∃ h : Normal m e, (m : ℚ) * 2 ^ e = n ∧
      UnpackedFloat.ofNat Format.binary64 n = .finite .positive m e h.pos := by
  have hfinite : ∀ {m e} (h : Normal m e), (m : ℚ) * 2 ^ e = n →
      UnpackedFloat.ofNat Format.binary64 n = .finite .positive m e h.pos := by
    intro m e h hvalue
    have hcompare : compare (n : ℤ) 0 = .gt := Int.compare_eq_gt.mpr (Int.natCast_pos.mpr hpos)
    rw [UnpackedFloat.ofNat, UnpackedFloat.ofInt, UnpackedFloat.normalize, hcompare]
    exact h.round_eq .positive (by rw [Int.toNat_natCast, hvalue, zpow_zero, mul_one])
  rcases hle.eq_or_lt with rfl | hlt
  · -- the bound itself has one bit more, which is a zero
    have h : Normal (2 ^ 52) 1 := ⟨le_rfl, by decide, by decide, by decide⟩
    have hvalue : ((2 ^ 52 : ℕ) : ℚ) * 2 ^ (1 : ℤ) = (2 ^ 53 : ℕ) := by norm_num
    exact ⟨2 ^ 52, 1, h, hvalue, hfinite h hvalue⟩
  · have hne := Nat.ne_of_gt hpos
    have hlog : n.log2 < 53 := (Nat.log2_lt hne).mpr hlt
    obtain ⟨j, hj⟩ := Nat.exists_eq_add_of_le (Nat.le_of_lt_succ hlog)
    have hbits := (Nat.log2_eq_iff (Nat.mul_ne_zero hne (Nat.ne_of_gt (Nat.two_pow_pos j)))).mp
      ((log2_mul_two_pow hne j).trans hj.symm)
    have h : Normal (n * 2 ^ j) (-j) := ⟨hbits.1, hbits.2, by omega, by omega⟩
    have hvalue : ((n * 2 ^ j : ℕ) : ℚ) * 2 ^ (-j : ℤ) = n := by
      rw [Nat.cast_mul, mul_assoc, Nat.cast_pow, Nat.cast_ofNat, zpow_neg, zpow_natCast,
        mul_inv_cancel₀ (pow_ne_zero j two_ne_zero), mul_one]
    exact ⟨n * 2 ^ j, -j, h, hvalue, hfinite h hvalue⟩

theorem eq_zero_or_normal (hle : n ≤ 2 ^ 53) :
    n = 0 ∨ 0 < n ∧ ∃ m e, ∃ h : Normal m e, (m : ℚ) * 2 ^ e = n ∧
      UnpackedFloat.ofNat Format.binary64 n = .finite .positive m e h.pos :=
  (Nat.eq_zero_or_pos n).imp_right fun hpos => ⟨hpos, exists_normal hpos hle⟩

theorem ofNat_zero : UnpackedFloat.ofNat Format.binary64 0 = .zero .positive := rfl

theorem unpack_ofNat (hle : n ≤ 2 ^ 53) :
    (Float.Model.ofNat n).unpack = UnpackedFloat.ofNat Format.binary64 n := by
  rcases eq_zero_or_normal hle with rfl | ⟨-, m, e, h, -, hn⟩
  · rfl
  · rw [Float.Model.ofNat, hn, h.unpack_pack]

theorem add_ofNat (hle : m + n ≤ 2 ^ 53) :
    UnpackedFloat.add Format.binary64 (UnpackedFloat.ofNat Format.binary64 m)
      (UnpackedFloat.ofNat Format.binary64 n) = UnpackedFloat.ofNat Format.binary64 (m + n) := by
  have hm := eq_zero_or_normal (Nat.le_of_add_right_le hle)
  have hn := eq_zero_or_normal (Nat.le_of_add_left_le hle)
  rcases hm with rfl | ⟨hmpos, a, e, ha, hvaluea, hma⟩ <;>
    rcases hn with rfl | ⟨-, b, f, hb, hvalueb, hnb⟩
  · rfl
  · rw [Nat.zero_add, ofNat_zero, hnb]
    rfl
  · rw [Nat.add_zero, ofNat_zero, hma]
    rfl
  · obtain ⟨c, g, hc, hvaluec, hsum⟩ := exists_normal (Nat.add_pos_left hmpos n) hle
    rw [hma, hnb, hsum]
    exact hc.add_eq ha.pos hb.pos (by rw [hvaluea, hvalueb, hvaluec, Nat.cast_add])

theorem mul_ofNat (hm : m ≤ 2 ^ 53) (hn : n ≤ 2 ^ 53) (hle : m * n ≤ 2 ^ 53) :
    UnpackedFloat.mul Format.binary64 (UnpackedFloat.ofNat Format.binary64 m)
      (UnpackedFloat.ofNat Format.binary64 n) = UnpackedFloat.ofNat Format.binary64 (m * n) := by
  rcases eq_zero_or_normal hm with rfl | ⟨hmpos, a, e, ha, hvaluea, hma⟩ <;>
    rcases eq_zero_or_normal hn with rfl | ⟨hnpos, b, f, hb, hvalueb, hnb⟩
  · rfl
  · rw [Nat.zero_mul, ofNat_zero, hnb]
    rfl
  · rw [Nat.mul_zero, ofNat_zero, hma]
    rfl
  · obtain ⟨c, g, hc, hvaluec, hproduct⟩ := exists_normal (Nat.mul_pos hmpos hnpos) hle
    rw [hma, hnb, hproduct]
    exact hc.mul_eq ha hb (by rw [hvaluea, hvalueb, hvaluec, Nat.cast_mul])

end Binary

/-! ### Floating point numbers -/

variable {m n : ℕ}

theorem ofModel_add (x y : Float.Model) :
    (⟨x⟩ + ⟨y⟩ : Float) = ⟨.pack (.add Format.binary64 x.unpack y.unpack)⟩ := rfl

theorem ofModel_mul (x y : Float.Model) :
    (⟨x⟩ * ⟨y⟩ : Float) = ⟨.pack (.mul Format.binary64 x.unpack y.unpack)⟩ := rfl

/-- Up to `2 ^ 53` a whole number is converted as a word and is not scaled. -/
theorem ofNat_eq_ofModel (hle : n ≤ 2 ^ 53) : Float.ofNat n = ⟨Float.Model.ofNat n⟩ := by
  rcases hle.eq_or_lt with rfl | hlt
  · decide
  · have hone : Float.exactlyRepresentablePowersOfTen[0] = ⟨Float.Model.ofNat 1⟩ := by decide
    have hword : n.toUInt64.toNat = n := Nat.mod_eq_of_lt (by omega)
    have hconvert : n.toUInt64.toFloat = ⟨Float.Model.ofNat n⟩ := by
      change (⟨Float.Model.ofNat n.toUInt64.toNat⟩ : Float) = _
      rw [hword]
    have hsmall : n < 2 ^ 53 ∧ 0 ≤ 22 := ⟨hlt, by decide⟩
    change Float.ofScientific n false 0 = _
    rw [Float.ofScientific, dif_pos hsmall]
    simp only [hone, hconvert, Bool.false_eq_true, if_false]
    rw [ofModel_mul, Binary.unpack_ofNat hle, Binary.unpack_ofNat (by decide),
      Binary.mul_ofNat hle (by decide) (by omega), Nat.mul_one]
    rfl

/-- **A whole number up to `2 ^ 53` is itself.** -/
theorem floatValue?_ofNat (hle : n ≤ 2 ^ 53) : floatValue? (Float.ofNat n) = some (n : ℚ) := by
  rw [ofNat_eq_ofModel hle]
  rcases Binary.eq_zero_or_normal hle with rfl | ⟨-, m, e, h, hvalue, hn⟩
  · rfl
  · rw [Float.Model.ofNat, hn, h.floatValue?_pack, hvalue]

/-- **Sums of whole numbers are exact** up to `2 ^ 53`. -/
theorem ofNat_add_ofNat (hle : m + n ≤ 2 ^ 53) :
    Float.ofNat m + Float.ofNat n = Float.ofNat (m + n) := by
  have hm : m ≤ 2 ^ 53 := Nat.le_of_add_right_le hle
  have hn : n ≤ 2 ^ 53 := Nat.le_of_add_left_le hle
  rw [ofNat_eq_ofModel hle, ofNat_eq_ofModel hm, ofNat_eq_ofModel hn, ofModel_add,
    Binary.unpack_ofNat hm, Binary.unpack_ofNat hn, Binary.add_ofNat hle]
  rfl

/-- **Products of whole numbers are exact** up to `2 ^ 53`. -/
theorem ofNat_mul_ofNat (hm : m ≤ 2 ^ 53) (hn : n ≤ 2 ^ 53) (hle : m * n ≤ 2 ^ 53) :
    Float.ofNat m * Float.ofNat n = Float.ofNat (m * n) := by
  rw [ofNat_eq_ofModel hle, ofNat_eq_ofModel hm, ofNat_eq_ofModel hn, ofModel_mul,
    Binary.unpack_ofNat hm, Binary.unpack_ofNat hn, Binary.mul_ofNat hm hn hle]
  rfl

end EcmaLex
