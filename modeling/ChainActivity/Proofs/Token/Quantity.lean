import ChainActivity.Proofs.Token.Arithmetic
import Mathlib.Algebra.Order.Field.Rat
import Mathlib.Tactic.NormNum

/-!
# Quantities

What amounts of a token are worth in whole tokens.  Amounts of one token can differ in their
decimal places, and nothing looks at these when amounts are combined.  So the units of the
second amount are counted at the decimal places of the first.

## Main definitions

* `TokenAmount.share` — the part of a token that a number of units is.
* `TokenAmount.quantity` — the number of tokens that an amount stands for.

## Main statements

* `share_eq_share_iff` — units are worth the same at other decimal places only if there are
  none.
* `TokenAmount.quantity_of_combined` — the quantity of a sum and of a difference, and when it
  is the sum or the difference of the quantities.
-/

namespace ChainActivity.TokenAmount

/-- The part of a token that a number of units is, at some decimal places. -/
def share (decimals : UInt32) (units : Nat) : ℚ :=
  units / 10 ^ decimals.toNat

/-- The number of tokens that an amount stands for. -/
def quantity (v : TokenAmount) : ℚ :=
  share v.decimals v.units.toNat

section Share

variable {decimals places : UInt32} {m n : Nat}

@[simp] theorem share_zero (decimals : UInt32) : share decimals 0 = 0 := by
  rw [share, Nat.cast_zero, zero_div]

/-- Units of the same decimal places are added as numbers. -/
theorem share_add (decimals : UInt32) (m n : Nat) :
    share decimals (m + n) = share decimals m + share decimals n := by
  rw [share, share, share, Nat.cast_add, add_div]

/-- Units that are not zero are worth the same only at the same decimal places. -/
theorem share_eq_share_iff : share decimals n = share places n ↔ decimals = places ∨ n = 0 := by
  have base : Function.Injective fun k : Nat => (10 : ℚ) ^ k :=
    pow_right_injective₀ (by norm_num) (by norm_num)
  rw [share, share, div_eq_mul_inv, div_eq_mul_inv, mul_eq_mul_left_iff, inv_inj, base.eq_iff,
    UInt32.toNat_inj, Nat.cast_eq_zero]

end Share

/-- What is added or taken is a number of units at the decimal places of the first amount.  So
the quantity of a sum is the sum of the quantities, and that of a difference the difference,
exactly if the second amount has the same decimal places or is zero.  Adding zero to an amount
keeps its quantity; added to zero, an amount is counted without decimal places. -/
theorem quantity_of_combined (v w : TokenAmount) :
    (∀ c, v.checkedAdd w = .ok c →
      c.quantity = v.quantity + share v.decimals w.units.toNat ∧
        (c.quantity = v.quantity + w.quantity ↔ v.decimals = w.decimals ∨ w.units.toNat = 0)) ∧
    (∀ c, v.checkedSub w = .ok c →
      c.quantity = v.quantity - share v.decimals w.units.toNat ∧
        (c.quantity = v.quantity - w.quantity ↔ v.decimals = w.decimals ∨ w.units.toNat = 0)) ∧
    (∃ c, v.checkedAdd (zero v.token) = .ok c ∧ c.quantity = v.quantity) ∧
    ∃ c, (zero v.token).checkedAdd v = .ok c ∧ c.quantity = v.units.toNat ∧
      (c.quantity = v.quantity ↔ v.decimals = 0 ∨ v.units.toNat = 0) := by
  refine ⟨fun c added => ?_, fun c taken => ?_, ?_, ?_⟩
  · obtain ⟨-, units, found, rfl⟩ := combine_eq_ok_iff.mp added
    have whole : v.units.toNat + w.units.toNat = units.toNat := Amount.add?_eq_some_iff.mp found
    have sum : (of units v.decimals v.token).quantity =
        v.quantity + share v.decimals w.units.toNat := by
      rw [quantity, quantity, units_of, decimals_of, ← whole, share_add]
    refine ⟨sum, ?_⟩
    rw [sum, add_right_inj, quantity, share_eq_share_iff]
  · obtain ⟨-, units, found, rfl⟩ := combine_eq_ok_iff.mp taken
    have whole : units.toNat + w.units.toNat = v.units.toNat := Amount.sub?_eq_some_iff.mp found
    have rest : (of units v.decimals v.token).quantity =
        v.quantity - share v.decimals w.units.toNat := by
      rw [quantity, quantity, units_of, decimals_of, ← whole, share_add, add_sub_cancel_right]
    refine ⟨rest, ?_⟩
    rw [rest, sub_right_inj, quantity, share_eq_share_iff]
  · have added : v.units.add? .zero = some v.units := Amount.add?_eq_some_iff.mpr rfl
    exact ⟨of v.units v.decimals v.token, combine_eq_ok_iff.mpr ⟨rfl, _, added, rfl⟩, rfl⟩
  · have added : Amount.zero.add? v.units = some v.units :=
      Amount.add?_eq_some_iff.mpr (Nat.zero_add _)
    refine ⟨of v.units 0 v.token, combine_eq_ok_iff.mpr ⟨rfl, _, added, rfl⟩, ?_, ?_⟩
    · rw [quantity, units_of, decimals_of, share, UInt32.toNat_zero, pow_zero, div_one]
    · rw [quantity, quantity, units_of, decimals_of, share_eq_share_iff, eq_comm]

/-- Whole units and tenths of them, added and taken as if they were alike. -/
theorem quantity_of_combined_of_whole_and_tenths :
    let whole := of ⟨3, by decide⟩ 0 "T"
    let tenths := of ⟨20, by decide⟩ 1 "T"
    whole.checkedAdd tenths = .ok (of ⟨23, by decide⟩ 0 "T") ∧
      (of ⟨23, by decide⟩ 0 "T").quantity = 3 + 20 ∧
    tenths.checkedSub whole = .ok (of ⟨17, by decide⟩ 1 "T") ∧
      (of ⟨17, by decide⟩ 1 "T").quantity ≠ tenths.quantity - whole.quantity := by
  intro whole tenths
  have added : whole.checkedAdd tenths = .ok (of ⟨23, by decide⟩ 0 "T") := rfl
  have taken : tenths.checkedSub whole = .ok (of ⟨17, by decide⟩ 1 "T") := rfl
  refine ⟨added, ?_, taken, fun same => ?_⟩
  · have sum := ((quantity_of_combined whole tenths).1 _ added).1
    simpa [quantity, share, whole, tenths] using sum
  · have level := ((quantity_of_combined tenths whole).2.1 _ taken).2.mp same
    exact absurd level (by decide)

/-- Ten tenths of a token make ten tokens when they are added to nothing. -/
theorem quantity_not_added :
    (zero "T").checkedAdd (of ⟨10, by decide⟩ 1 "T") = .ok (of ⟨10, by decide⟩ 0 "T") ∧
      (of ⟨10, by decide⟩ 0 "T").quantity ≠
        (zero "T").quantity + (of ⟨10, by decide⟩ 1 "T").quantity := by
  refine ⟨rfl, ?_⟩
  have one : (1 : UInt32).toNat = 1 := rfl
  norm_num [quantity, share, zero, Amount.zero, one]

end ChainActivity.TokenAmount
