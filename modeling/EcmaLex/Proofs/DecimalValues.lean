import EcmaLex.Proofs.RuleContract
import EcmaLex.Proofs.WholeNumbers
import Mathlib.Data.List.Induction
import Mathlib.Data.Nat.Digits.Defs

/-!
# Values of decimal numbers

A run of digits writes a whole number, to which each digit contributes by its place. The value of a
decimal number is computed from the left, by a product with ten and a sum for each digit, and in
floating point numbers. As long as the number does not exceed `2 ^ 53`, no step does, since a step
is the number that a shorter run writes, or ten times it; so each step is exact, however long the
run is and whatever zeros it starts with.

All that this takes from the arithmetic of floating point numbers is that products with ten and sums
of whole numbers are exact up to `2 ^ 53`.

## Main definitions

* `EcmaLex.Grammar.placeValue` : the whole number that a run of digits writes.

## Main results

* `EcmaLex.Grammar.decimalValue_eq` : the value of a run of digits is this number.
* `EcmaLex.Cursor.decimals_are_exact` : decimal numbers are read exactly.
-/

namespace EcmaLex

namespace Grammar

/-- The whole number that a run of digits writes: the last digit counts ones, and each digit counts
ten times as much as the one behind it. -/
def placeValue (digits : List Char) : ℕ :=
  Nat.ofDigits 10 (digits.reverse.map fun c => c.toNat - '0'.toNat)

variable {digits front back : List Char} {c : Char} {n : ℕ}

/-! ### Whole numbers by their digits -/

theorem placeValue_append (front back : List Char) :
    placeValue (front ++ back) = placeValue back + 10 ^ back.length * placeValue front := by
  rw [placeValue, List.reverse_append, List.map_append, Nat.ofDigits_append, List.length_map,
    List.length_reverse]
  rfl

theorem placeValue_concat (digits : List Char) (c : Char) :
    placeValue (digits ++ [c]) = 10 * placeValue digits + (c.toNat - '0'.toNat) := by
  have hone : placeValue [c] = c.toNat - '0'.toNat := Nat.ofDigits_singleton
  rw [placeValue_append, hone, List.length_singleton, pow_one, Nat.add_comm]

/-- A run that goes on writes no smaller number. -/
theorem placeValue_le_append (front back : List Char) :
    placeValue front ≤ placeValue (front ++ back) := by
  rw [placeValue_append]
  exact Nat.le_add_left_of_le (Nat.le_mul_of_pos_left _ (Nat.pow_pos (Nat.succ_pos 9)))

/-- A digit that follows makes the number ten times as large at least. -/
theorem ten_mul_placeValue_le (front : List Char) (hback : back ≠ []) :
    10 * placeValue front ≤ placeValue (front ++ back) := by
  obtain ⟨c, back, rfl⟩ := List.exists_cons_of_ne_nil hback
  have hconcat := placeValue_concat front c
  have hle := placeValue_le_append (front ++ [c]) back
  rw [List.append_assoc, List.singleton_append] at hle
  omega

/-- Zeros in front do not count. -/
theorem placeValue_zeros_append (n : ℕ) (digits : List Char) :
    placeValue (zeros n ++ digits) = placeValue digits := by
  have hzeros : placeValue (zeros n) = 0 := by
    induction n with
    | zero => rfl
    | succ n ih =>
      rw [zeros, List.replicate_succ', placeValue_concat]
      change 10 * placeValue (zeros n) + 0 = 0
      rw [ih]
  rw [placeValue_append, hzeros, Nat.mul_zero, Nat.add_zero]

/-! ### The steps of the computation -/

theorem ten_mul_ofNat (hle : 10 * n ≤ 2 ^ 53) : 10.0 * Float.ofNat n = Float.ofNat (10 * n) := by
  have hten : (10.0 : Float) = Float.ofNat 10 := by decide
  rw [hten, ofNat_mul_ofNat (by decide) (by omega) hle]

theorem decimalValue_concat (digits : List Char) (c : Char) :
    decimalValue (digits ++ [c]) = 10.0 * decimalValue digits + digitValue c := by
  rw [decimalValue, List.foldl_append]
  rfl

/-- **The value of a run of digits is the whole number that it writes**, up to `2 ^ 53`. -/
theorem decimalValue_eq (hle : placeValue digits ≤ 2 ^ 53) :
    decimalValue digits = Float.ofNat (placeValue digits) := by
  induction digits using List.reverseRecOn with
  | nil => decide
  | append_singleton digits c ih =>
    -- neither the product nor the sum exceeds the number of the whole run
    rw [placeValue_concat] at hle ⊢
    have hproduct : 10 * placeValue digits ≤ 2 ^ 53 := by omega
    rw [decimalValue_concat, ih (by omega), ten_mul_ofNat hproduct, digitValue, ofNat_add_ofNat hle]

/-- The product with ten in front of a digit is exact as well. -/
theorem ten_mul_decimalValue (hle : 10 * placeValue digits ≤ 2 ^ 53) :
    10.0 * decimalValue digits = Float.ofNat (10 * placeValue digits) := by
  rw [decimalValue_eq (by omega), ten_mul_ofNat hle]

end Grammar

/-! ### Decimal numbers -/

namespace Cursor

open Grammar

variable {config : Config} {k : Cursor} {run rest : List Char}

/-- The rule for decimal numbers reads the longest run of digits ahead. -/
theorem lexesAs_decimal (config : Config) (hrest : k.rest = run ++ rest)
    (hrun : ∀ c ∈ run, isDigit c = true) (hstop : ∀ c ∈ rest.head?, isDigit c = false) :
    k.LexesAs config (.ofRule .decimal) run (some (.decimal (decimalValue run))) ∧
      (k.lex config (.ofRule .decimal)).2.rest = rest := by
  refine lexesAs_of_read hrest ?_
  have htake : k.rest.takeWhile isDigit = run := hrest ▸ Text.takeWhile_append_eq hrun hstop
  rw [Kind.read, Rule.read, decimal, htake]
  rfl

/-- **Decimal numbers up to `2 ^ 53` are read exactly.** Where a run of digits is ahead, of any
length and with any zeros in front, that writes no larger number, just this run is read, and the
value is the number that it writes. A run that differs in the zeros in front has the same value.
Each step of the computation is exact and at most this number: the value of every part at the front,
and ten times the value if a digit follows. -/
theorem decimals_are_exact (config : Config) (hrest : k.rest = run ++ rest)
    (hrun : ∀ c ∈ run, isDigit c = true) (hstop : ∀ c ∈ rest.head?, isDigit c = false)
    (hle : placeValue run ≤ 2 ^ 53) :
    let value := Float.ofNat (placeValue run)
    floatValue? value = some (placeValue run : ℚ) ∧
    k.LexesAs config (.ofRule .decimal) run (some (.decimal value)) ∧
    (k.lex config (.ofRule .decimal)).2.rest = rest ∧
    (∀ (k' : Cursor) (m n : ℕ) (digits rest' : List Char), run = zeros m ++ digits →
      k'.rest = zeros n ++ digits ++ rest' → (∀ c ∈ rest'.head?, isDigit c = false) →
      k'.LexesAs config (.ofRule .decimal) (zeros n ++ digits) (some (.decimal value))) ∧
    ∀ front back, run = front ++ back →
      (placeValue front ≤ placeValue run ∧
        floatValue? (decimalValue front) = some (placeValue front : ℚ)) ∧
      (back ≠ [] → 10 * placeValue front ≤ placeValue run ∧
        floatValue? (10.0 * decimalValue front) = some (10 * placeValue front : ℚ)) := by
  intro value
  obtain ⟨hlex, hbehind⟩ := lexesAs_decimal config hrest hrun hstop
  rw [decimalValue_eq hle] at hlex
  refine ⟨floatValue?_ofNat hle, hlex, hbehind, ?_, ?_⟩
  · rintro k' m n digits rest' rfl hrest' hstop'
    have hdigits : ∀ c ∈ zeros n ++ digits, isDigit c = true := by
      intro c hc
      rcases List.mem_append.mp hc with hzero | hdigit
      · rw [List.eq_of_mem_replicate hzero]
        rfl
      · exact hrun c (List.mem_append_right _ hdigit)
    have hsame : placeValue (zeros n ++ digits) = placeValue (zeros m ++ digits) := by
      rw [placeValue_zeros_append, placeValue_zeros_append]
    have hlex' := (lexesAs_decimal config hrest' hdigits hstop').1
    rwa [decimalValue_eq (hsame.trans_le hle), hsame] at hlex'
  · rintro front back rfl
    have hfront := placeValue_le_append front back
    refine ⟨⟨hfront, ?_⟩, fun hback => ?_⟩
    · rw [decimalValue_eq (hfront.trans hle), floatValue?_ofNat (hfront.trans hle)]
    · have hten := ten_mul_placeValue_le front hback
      refine ⟨hten, ?_⟩
      rw [ten_mul_decimalValue (hten.trans hle), floatValue?_ofNat (hten.trans hle), Nat.cast_mul,
        Nat.cast_ofNat]

/-- The bound itself, written with zeros in front. -/
theorem decimal_bound_behind_zeros :
    let run := zeros 2 ++ ['9', '0', '0', '7', '1', '9', '9', '2', '5', '4', '7', '4', '0', '9',
      '9', '2']
    let k := Cursor.ofString (String.ofList (run ++ [';']))
    k.rest = run ++ [';'] ∧ (∀ c ∈ run, isDigit c = true) ∧
      (∀ c ∈ [';'].head?, isDigit c = false) ∧ placeValue run = 2 ^ 53 ∧
      (k.lex {} (.ofRule .decimal)).1 =
        .ok ⟨some (.decimal (Float.ofNat (2 ^ 53))), 0, 18⟩ := by
  intro run k
  have hrest : k.rest = run ++ [';'] := String.toList_ofList
  have hrun : ∀ c ∈ run, isDigit c = true := List.all_eq_true.mp (by decide)
  have hstop : ∀ c ∈ [';'].head?, isDigit c = false := by simp [isDigit]
  have hvalue : placeValue run = 2 ^ 53 := by decide
  obtain ⟨-, hlex, -⟩ := decimals_are_exact {} hrest hrun hstop hvalue.le
  rw [hvalue] at hlex
  exact ⟨hrest, hrun, hstop, hvalue, hlex.result_eq⟩

end Cursor

end EcmaLex
