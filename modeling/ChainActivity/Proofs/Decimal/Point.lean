import ChainActivity.Decimal.Point
import ChainActivity.Proofs.Json.Numerals
import Mathlib.Algebra.Order.Floor.Semifield
import Mathlib.Data.Rat.Floor
import Mathlib.Tactic.FieldSimp
import Mathlib.Tactic.NormNum

/-!
# Moving the point is a floor

Digits with a point, moved by some places and cut there, are the canonical numeral of a whole
number: of the number that they denote times a power of ten, cut down to a whole one.

## Main definitions

* `Decimal.ofDigits` — the number that digits with a point denote.

## Main statements

* `Decimal.trimZeros_eq_toDigits` — digits without the zeros in front are those of their value.
* `Decimal.floor_ofDigits` — the whole number as a quotient of whole numbers.
* `Decimal.shiftPoint_eq_toDigits` — the moved point.

## Design notes

A row of digits is compared with the digits of a number by its value only.  So it makes no
difference whether the point is moved beyond the last digit or stops before it.
-/

namespace ChainActivity

namespace Json.Numeral

/-- A decimal digit is the one that is written for its value. -/
theorem digitChar_digitValue {c : Char} (digit : c.isDigit = true) :
    Nat.digitChar (digitValue c) = c := by
  have small : digitValue c < 10 := Nat.lt_succ_of_le (digitValue_le digit)
  simp only [Char.isDigit, Bool.and_eq_true, decide_eq_true_eq] at digit
  have lower : 48 ≤ c.toNat := digit.1
  apply Char.toNat_inj.mp
  rw [Nat.toNat_digitChar_of_lt_ten small, digitValue]
  change 48 + (c.toNat - 48) = c.toNat
  omega

/-- Digits behind those of a number that is not zero go on with it. -/
theorem toDigits_append {n : Nat} (positive : 0 < n) {ds : List Char}
    (digits : ∀ c ∈ ds, c.isDigit = true) :
    Nat.toDigits 10 n ++ ds = Nat.toDigits 10 (n * 10 ^ ds.length + natValue ds) := by
  induction ds generalizing n with
  | nil => simp [natValue]
  | cons d ds ih =>
    rw [List.forall_mem_cons] at digits
    have small : digitValue d < 10 := Nat.lt_succ_of_le (digitValue_le digits.1)
    have next : Nat.toDigits 10 n ++ [d] = Nat.toDigits 10 (10 * n + digitValue d) := by
      rw [← Nat.toDigits_append_toDigits (by decide) positive small,
        Nat.toDigits_of_lt_base small, digitChar_digitValue digits.1]
    have moved : (10 * n + digitValue d) * 10 ^ ds.length + natValue ds =
        n * 10 ^ (d :: ds).length + natValue (d :: ds) := by
      rw [natValue_cons, List.length_cons, Nat.pow_succ]
      ring
    rw [List.append_cons, next, ih (by omega) digits.2, moved]

end Json.Numeral

namespace Decimal

open Json.Numeral

/-- Digits without the zeros in front are the digits of their value. -/
theorem trimZeros_eq_toDigits {ds : List Char} (digits : ∀ c ∈ ds, c.isDigit = true) :
    trimZeros ds = Nat.toDigits 10 (natValue ds) := by
  induction ds with
  | nil => rfl
  | cons d ds ih =>
    rw [List.forall_mem_cons] at digits
    by_cases zero : d = '0'
    · have same : natValue (d :: ds) = natValue ds := by
        have value : digitValue '0' = 0 := rfl
        rw [natValue_cons, zero, value, Nat.zero_mul, Nat.zero_add]
      rw [same, ← ih digits.2, trimZeros, trimZeros, List.dropWhile_cons_of_pos (by simpa using zero)]
    · have positive : 0 < digitValue d := by
        refine Nat.pos_of_ne_zero fun none => zero ?_
        rw [← digitChar_digitValue digits.1, none]
        rfl
      have small : digitValue d < 10 := Nat.lt_succ_of_le (digitValue_le digits.1)
      calc trimZeros (d :: ds) = [d] ++ ds := by
            rw [trimZeros, List.dropWhile_cons_of_neg (by simpa using zero)]
            rfl
        _ = Nat.toDigits 10 (digitValue d) ++ ds := by
            rw [Nat.toDigits_of_lt_base small, digitChar_digitValue digits.1]
        _ = Nat.toDigits 10 (natValue (d :: ds)) := by
            rw [toDigits_append positive digits.2, ← natValue_cons]

/-! ### The point -/

/-- The number that digits before and behind a point denote. -/
def ofDigits (whole fraction : List Char) : ℚ :=
  natValue whole + natValue fraction / 10 ^ fraction.length

/-- That number times a power of ten, cut down to a whole one. -/
theorem floor_ofDigits (whole fraction : List Char) (places : Nat) :
    ⌊ofDigits whole fraction * 10 ^ places⌋₊ =
      natValue (whole ++ fraction) * 10 ^ places / 10 ^ fraction.length := by
  have quotient : ofDigits whole fraction * 10 ^ places =
      ((natValue (whole ++ fraction) * 10 ^ places : Nat) : ℚ) /
        ((10 ^ fraction.length : Nat) : ℚ) := by
    rw [ofDigits, natValue_append]
    push_cast
    field_simp
  rw [quotient, Nat.floor_div_eq_div]

/-- Digits with some of them cut off, or with zeros for those that are missing, have that number
as their value. -/
theorem natValue_cut {fraction : List Char} (digits : ∀ c ∈ fraction, c.isDigit = true)
    (whole : List Char) (places : Nat) :
    natValue (whole ++ fraction.take places ++ List.replicate (places - fraction.length) '0') =
      natValue (whole ++ fraction) * 10 ^ places / 10 ^ fraction.length := by
  rcases Nat.le_total fraction.length places with short | long
  · -- no digit is cut off, and the zeros make up for the missing places
    have power : 10 ^ places = 10 ^ (places - fraction.length) * 10 ^ fraction.length := by
      rw [← Nat.pow_add, Nat.sub_add_cancel short]
    rw [List.take_of_length_le short, natValue_append, natValue_zeros, List.length_replicate,
      Nat.add_zero, power, ← Nat.mul_assoc, Nat.mul_div_cancel _ (Nat.pow_pos (by decide))]
  · -- what is cut off is less than one place
    have cut : natValue (fraction.drop places) < 10 ^ (fraction.length - places) := by
      rw [← List.length_drop]
      exact natValue_lt fun c member => digits c (List.mem_of_mem_drop member)
    have split : natValue (whole ++ fraction) =
        natValue (whole ++ fraction.take places) * 10 ^ (fraction.length - places) +
          natValue (fraction.drop places) := by
      rw [← List.length_drop, ← natValue_append, List.append_assoc, List.take_append_drop]
    have power : 10 ^ fraction.length = 10 ^ (fraction.length - places) * 10 ^ places := by
      rw [← Nat.pow_add, Nat.sub_add_cancel long]
    rw [Nat.sub_eq_zero_of_le long, List.replicate_zero, List.append_nil, power,
      Nat.mul_div_mul_right _ _ (Nat.pow_pos (by decide)), split, Nat.mul_comm,
      Nat.mul_add_div (Nat.pow_pos (by decide)), Nat.div_eq_of_lt cut, Nat.add_zero]

/-- A text of digits is cut at its point, if it has one. -/
theorem takeWhile_point {whole : List Char} (digits : ∀ c ∈ whole, c.isDigit = true)
    (fraction : Option (List Char)) :
    (whole ++ fractionText fraction).takeWhile (· ≠ '.') = whole ∧
      ((whole ++ fractionText fraction).dropWhile (· ≠ '.')).drop 1 = fraction.getD [] := by
  have other : ∀ c ∈ whole, decide (c ≠ '.') = true := by
    intro c member
    refine decide_eq_true ?_
    rintro rfl
    exact absurd (digits '.' member) (by decide)
  rw [List.takeWhile_append_of_pos other, List.dropWhile_append_of_pos other]
  cases fraction with
  | none => exact ⟨by simp [fractionText], rfl⟩
  | some ds => exact ⟨by simp [fractionText], by simp [fractionText]⟩

/-- **Moving the point is a floor**: the moved digits are the canonical numeral of the number
times a power of ten, cut down to a whole one. -/
theorem shiftPoint_eq_toDigits {whole : List Char} {fraction : Option (List Char)}
    (digits : ∀ c ∈ whole ++ fraction.getD [], c.isDigit = true) (places : Nat) :
    shiftPoint (whole ++ fractionText fraction) places =
      Nat.toDigits 10 ⌊ofDigits whole (fraction.getD []) * 10 ^ places⌋₊ := by
  obtain ⟨before, behind⟩ := List.forall_mem_append.mp digits
  obtain ⟨taken, dropped⟩ := takeWhile_point before fraction
  have row : ∀ c ∈ whole ++ (fraction.getD []).take places ++
      List.replicate (places - (fraction.getD []).length) '0', c.isDigit = true := by
    simp only [List.forall_mem_append]
    refine ⟨⟨before, fun c member => behind c (List.mem_of_mem_take member)⟩, fun c member => ?_⟩
    rw [List.eq_of_mem_replicate member]
    rfl
  rw [shiftPoint, taken, dropped, trimZeros_eq_toDigits row, natValue_cut behind, floor_ofDigits]

end Decimal
end ChainActivity
