import ChainActivity.Decimal.Shortest
import ChainActivity.Proofs.Json.Numerals
import Mathlib.Algebra.Order.Field.Power
import Mathlib.Tactic.FieldSimp
import Mathlib.Tactic.Linarith
import Mathlib.Tactic.NormNum
import Mathlib.Tactic.Positivity
import Mathlib.Tactic.Ring

/-!
# The shortest decimal of a double

The shortest decimal of a double lies in the interval that rounds to the double, so that it
is larger by half a place at most.  Its digits denote it.

## Main definitions

* `Decimal.value` — the number that a decimal is.

## Main statements

* `Binary64.le_of_compareDecimal` — the comparison in whole numbers is the one of the numbers.
* `Decimal.value_exact` — the exact decimal of a double is the double.
* `Decimal.shortest_le` — the shortest decimal of a double, and how large it may be.
* `Decimal.digits_spec` — the digits of a decimal.

## Design notes

Only the upper end of the interval is looked at.  It is what keeps the decimal of a large
double from being read as an infinity.
-/

namespace ChainActivity

theorem zpow_mul_toNat {a : ℚ} (some : a ≠ 0) (e : Int) : a ^ e * a ^ (-e).toNat = a ^ e.toNat := by
  rw [← zpow_natCast, ← zpow_natCast, ← zpow_add₀ some]
  congr 1
  omega

namespace Binary64

theorem le_of_compareDecimal {c : Nat} {e : Int} {n : Nat} {u : Int}
    (order : (compareDecimal c e n u).isLE = true) : (c : ℚ) * 10 ^ e ≤ n * 2 ^ u := by
  rw [compareDecimal, Nat.isLE_compare] at order
  simp only [Nat.shiftLeft_eq, Nat.pow_eq] at order
  have scaled : (c : ℚ) * 10 ^ e.toNat * 2 ^ (-u).toNat ≤ n * 10 ^ (-e).toNat * 2 ^ u.toNat := by
    exact_mod_cast order
  rw [← zpow_mul_toNat (a := 10) (by norm_num) e,
    ← zpow_mul_toNat (a := 2) (by norm_num) u] at scaled
  refine le_of_mul_le_mul_right (a := (10 : ℚ) ^ (-e).toNat * 2 ^ (-u).toNat) ?_ (by positivity)
  linarith

theorem Neighbourhood.le_high_of_contains {nb : Neighbourhood} {c : Nat} {e : Int}
    (inside : nb.contains c e = true) : (c : ℚ) * 10 ^ e ≤ nb.high * 2 ^ nb.unit := by
  rw [contains] at inside
  refine le_of_compareDecimal ?_
  split at inside
  · exact (Bool.and_eq_true_iff.mp inside).2
  · have below := (Bool.and_eq_true_iff.mp inside).2
    revert below
    cases compareDecimal c e nb.high nb.unit <;> decide

end Binary64

namespace Decimal

/-- The number that a decimal is. -/
def value (d : Decimal) : ℚ := d.significand * 10 ^ d.exponent

/-- A point of a grid that is taken lies in the neighbourhood. -/
theorem gridPoint?_le {tie : Tie} {nb : Binary64.Neighbourhood} {e : Int} {d : Decimal}
    (hit : gridPoint? tie nb e = some d) :
    0 < d.significand ∧ d.value ≤ nb.high * 2 ^ nb.unit := by
  rw [gridPoint?] at hit
  generalize floorAt nb.value nb.unit e = below at hit
  have left : (nb.contains below e && decide (below ≠ 0)) = true →
      0 < below ∧ (below : ℚ) * 10 ^ e ≤ nb.high * 2 ^ nb.unit := by
    intro inside
    rw [Bool.and_eq_true, decide_eq_true_eq] at inside
    exact ⟨Nat.pos_of_ne_zero inside.2, Binary64.Neighbourhood.le_high_of_contains inside.1⟩
  have right : nb.contains (below + 1) e = true →
      0 < below + 1 ∧ ((below + 1 : Nat) : ℚ) * 10 ^ e ≤ nb.high * 2 ^ nb.unit :=
    fun inside => ⟨Nat.succ_pos below, Binary64.Neighbourhood.le_high_of_contains inside⟩
  split at hit
  · next first second =>
    split at hit
    · obtain rfl := Option.some.inj hit
      exact right second
    · obtain rfl := Option.some.inj hit
      have picked : tie.pick below = below ∨ tie.pick below = below + 1 := by
        cases tie with
        | up => exact .inr rfl
        | even =>
          rw [Tie.pick]
          split
          · exact .inl rfl
          · exact .inr rfl
      rcases picked with same | same
      · simp only [value, same]
        exact left first
      · simp only [value, same]
        exact right second
    · obtain rfl := Option.some.inj hit
      exact left first
  · next first _ =>
    obtain rfl := Option.some.inj hit
    exact left first
  · next _ second =>
    obtain rfl := Option.some.inj hit
    exact right second
  · cases hit

theorem search_le {tie : Tie} {nb : Binary64.Neighbourhood} {count : Nat} {e : Int} {d : Decimal}
    (hit : search tie nb count e = some d) :
    0 < d.significand ∧ d.value ≤ nb.high * 2 ^ nb.unit := by
  induction count generalizing e with
  | zero => cases hit
  | succ count ih =>
    rw [search] at hit
    split at hit
    · next found =>
      obtain rfl := Option.some.inj hit
      exact gridPoint?_le found
    · exact ih hit

/-- The exact value of a double is its value. -/
theorem value_exact (mantissa : Nat) (exponent : Int) :
    (exact mantissa exponent).value = mantissa * 2 ^ exponent := by
  rw [exact]
  split
  · next natural =>
    obtain ⟨k, rfl⟩ := Int.eq_ofNat_of_zero_le natural
    simp [value, Nat.shiftLeft_eq]
  · next negative =>
    obtain ⟨k, rfl⟩ : ∃ k : Nat, exponent = -k := ⟨exponent.natAbs, by omega⟩
    have ten : (10 : ℚ) ^ k = 5 ^ k * 2 ^ k := by rw [← mul_pow]; norm_num
    simp only [value, neg_neg, Int.toNat_natCast, zpow_neg, zpow_natCast, Nat.pow_eq, ten]
    push_cast
    field_simp

/-- The shortest decimal of a double is not zero, and at most half a place larger than the
double. -/
theorem shortest_le (tie : Tie) {mantissa : Nat} (positive : 0 < mantissa) (exponent : Int) :
    0 < (shortest tie mantissa exponent).significand ∧
      (shortest tie mantissa exponent).value ≤ (4 * mantissa + 2) * 2 ^ (exponent - 2) := by
  rw [shortest]
  rcases found : search tie (Binary64.quarters mantissa exponent) 17 (magnitude mantissa exponent)
    with _ | d
  · refine ⟨?_, ?_⟩
    · change 0 < (exact mantissa exponent).significand
      rw [exact]
      split
      · rw [Nat.shiftLeft_eq]
        exact Nat.mul_pos positive (Nat.two_pow_pos _)
      · exact Nat.mul_pos positive (Nat.pow_pos (by decide))
    · change (exact mantissa exponent).value ≤ _
      have quarter : (2 : ℚ) ^ (exponent - 2) = 2 ^ exponent / 4 := by
        rw [zpow_sub₀ (by norm_num)]
        norm_num
      have unit : (0 : ℚ) < 2 ^ exponent := by positivity
      rw [value_exact, quarter]
      linarith
  · have close := search_le found
    refine ⟨close.1, close.2.trans_eq ?_⟩
    simp [Binary64.quarters]

/-! ### Digits -/

open Json.Numeral (natValue)

/-- The zeros that are stripped stood at the end. -/
theorem stripZeros_eq (ds : List Char) (e : Int) :
    ∃ zeros : Nat, ds = (stripZeros ds e).1 ++ List.replicate zeros '0' ∧
      (stripZeros ds e).2 = e + zeros := by
  refine ⟨(ds.reverse.takeWhile (· = '0')).length, ?_, rfl⟩
  have zeros : (ds.reverse.takeWhile (· = '0')).reverse =
      List.replicate (ds.reverse.takeWhile (· = '0')).length '0' := by
    refine List.eq_replicate_iff.mpr ⟨List.length_reverse, fun c member => ?_⟩
    have zero := List.mem_takeWhile_imp (List.mem_reverse.mp member)
    exact of_decide_eq_true zero
  have first := List.prefix_iff_eq_take.mp (List.takeWhile_prefix (l := ds.reverse) (· = '0'))
  have back : ds.drop (ds.length - (ds.reverse.takeWhile (· = '0')).length) =
      (ds.reverse.takeWhile (· = '0')).reverse := by
    conv_rhs => rw [first]
    rw [List.reverse_take, List.reverse_reverse, List.length_reverse]
  calc ds = ds.take (ds.length - (ds.reverse.takeWhile (· = '0')).length) ++
        ds.drop (ds.length - (ds.reverse.takeWhile (· = '0')).length) :=
      (List.take_append_drop ..).symm
    _ = (stripZeros ds e).1 ++ List.replicate (ds.reverse.takeWhile (· = '0')).length '0' := by
      rw [back, zeros]
      rfl

/-- The digits of a decimal that is not zero. -/
theorem digits_spec {d : Decimal} (positive : 0 < d.significand) :
    Json.Numeral.AreDigits d.digits.1 ∧ d.digits.1.head? ≠ some '0' ∧
      (natValue d.digits.1 : ℚ) * 10 ^ (d.digits.2 + 1 - d.digits.1.length) = d.value := by
  obtain ⟨zeros, split, shifted⟩ := stripZeros_eq (Nat.toDigits 10 d.significand) d.exponent
  have digits : d.digits = ((stripZeros (Nat.toDigits 10 d.significand) d.exponent).1,
      (stripZeros (Nat.toDigits 10 d.significand) d.exponent).2 +
        (stripZeros (Nat.toDigits 10 d.significand) d.exponent).1.length - 1) := rfl
  generalize (stripZeros (Nat.toDigits 10 d.significand) d.exponent).1 = ds at split digits
  rw [shifted] at digits
  have front := Json.Numeral.head?_toDigits_ne_zero positive
  have present : ds ≠ [] := by
    rintro rfl
    rw [List.nil_append] at split
    rcases zeros with _ | zeros
    · exact Nat.toDigits_ne_nil split
    · exact front (by rw [split]; rfl)
  have head : ds.head? = (Nat.toDigits 10 d.significand).head? := by
    rw [split, List.head?_append_of_ne_nil ds present]
  rw [digits]
  refine ⟨⟨present, fun c member => ?_⟩, head ▸ front, ?_⟩
  · have digit : c ∈ Nat.toDigits 10 d.significand := by
      rw [split]
      exact List.mem_append_left _ member
    exact Json.Numeral.isDigit_of_mem_toDigits digit
  · have number : d.significand = natValue ds * 10 ^ zeros := by
      rw [← Json.Numeral.natValue_toDigits d.significand, split, Json.Numeral.natValue_append,
        Json.Numeral.natValue_zeros, List.length_replicate, Nat.add_zero]
    have exponent : d.exponent + zeros + ds.length - 1 + 1 - ds.length = zeros + d.exponent := by
      omega
    dsimp only
    rw [exponent, value, number, zpow_add₀ (by norm_num), zpow_natCast]
    push_cast
    ring

end Decimal
end ChainActivity
