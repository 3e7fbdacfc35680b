import ChainActivity.Token.Amount

/-!
# Sums and differences of amounts

Two amounts are combined if they are of one token and the result is an amount; it is then of
that token, with the decimal places of the first of the two.

## Main definitions

* `TokenAmount.total` — the units of some amounts together.

## Main statements

* `TokenAmount.combine_eq_ok_iff` — when two amounts are combined, and what they make.
* `TokenAmount.add_of_lt`, `TokenAmount.add_of_le` — the sum of two amounts of a token, and
  that nothing is added if it is too large.
* `TokenAmount.sub_of_le`, `TokenAmount.sub_of_lt` — what is left of an amount when another
  of its token is taken from it, and that nothing is taken if that is too much.
-/

namespace ChainActivity.TokenAmount

variable {v w c : TokenAmount}

theorem combine_eq_ok_iff {op : Amount → Amount → Option Amount} :
    combine op v w = .ok c ↔
      v.token = w.token ∧
        ∃ units, op v.units w.units = some units ∧ c = of units v.decimals v.token := by
  unfold combine
  constructor
  · intro combined
    split at combined
    · next same =>
      split at combined
      · next units found => exact ⟨same, units, found, (Except.ok.inj combined).symm⟩
      · cases combined
    · cases combined
  · rintro ⟨same, units, found, rfl⟩
    rw [if_pos same, found]

/-- An amount that was combined with another, or was kept where that is not possible, is the
first amount or one of its token with its decimal places. -/
theorem orElse_combine_cases (op : Amount → Amount → Option Amount) (v w : TokenAmount) :
    orElse (combine op v w) v = v ∨
      ∃ units, orElse (combine op v w) v = of units v.decimals v.token := by
  cases combined : combine op v w with
  | error e => exact .inl rfl
  | ok c =>
    obtain ⟨-, units, -, rfl⟩ := combine_eq_ok_iff.mp combined
    exact .inr ⟨units, rfl⟩

theorem add_cases (v w : TokenAmount) :
    v.add w = v ∨ ∃ units, v.add w = of units v.decimals v.token :=
  orElse_combine_cases Amount.add? v w

theorem sub_cases (v w : TokenAmount) :
    v.sub w = v ∨ ∃ units, v.sub w = of units v.decimals v.token :=
  orElse_combine_cases Amount.sub? v w

@[simp] theorem token_add (v w : TokenAmount) : (v.add w).token = v.token := by
  rcases add_cases v w with same | ⟨units, sum⟩
  · rw [same]
  · rw [sum, token_of]

@[simp] theorem token_sub (v w : TokenAmount) : (v.sub w).token = v.token := by
  rcases sub_cases v w with same | ⟨units, rest⟩
  · rw [same]
  · rw [rest, token_of]

@[simp] theorem decimals_sub (v w : TokenAmount) : (v.sub w).decimals = v.decimals := by
  rcases sub_cases v w with same | ⟨units, rest⟩
  · rw [same]
  · rw [rest, decimals_of]

/-- An amount is added if the sum is not too large. -/
theorem add_of_lt (same : v.token = w.token)
    (fits : v.units.toNat + w.units.toNat < Amount.bound) :
    (v.add w).units.toNat = v.units.toNat + w.units.toNat := by
  have added : v.units.add? w.units = some ⟨v.units.toNat + w.units.toNat, fits⟩ :=
    Amount.add?_eq_some_iff.mpr rfl
  have sum : checkedAdd v w = .ok (of ⟨_, fits⟩ v.decimals v.token) :=
    combine_eq_ok_iff.mpr ⟨same, _, added, rfl⟩
  rw [add, sum]
  rfl

/-- An amount that would make the sum too large is not added at all. -/
theorem add_of_le (large : Amount.bound ≤ v.units.toNat + w.units.toNat) : v.add w = v := by
  unfold add
  cases added : checkedAdd v w with
  | error e => rfl
  | ok sum =>
    obtain ⟨-, units, found, -⟩ := combine_eq_ok_iff.mp added
    have whole : v.units.toNat + w.units.toNat = units.toNat := Amount.add?_eq_some_iff.mp found
    have small := units.isLt
    omega

/-- An amount that is no larger is taken, without a remainder below zero. -/
theorem sub_of_le (same : v.token = w.token) (fits : w.units.toNat ≤ v.units.toNat) :
    (v.sub w).units.toNat + w.units.toNat = v.units.toNat := by
  have small : v.units.toNat - w.units.toNat < Amount.bound :=
    Nat.lt_of_le_of_lt (Nat.sub_le _ _) v.units.isLt
  have taken : v.units.sub? w.units = some ⟨v.units.toNat - w.units.toNat, small⟩ :=
    Amount.sub?_eq_some_iff.mpr (Nat.sub_add_cancel fits)
  have rest : checkedSub v w = .ok (of ⟨_, small⟩ v.decimals v.token) :=
    combine_eq_ok_iff.mpr ⟨same, _, taken, rfl⟩
  rw [sub, rest]
  exact Nat.sub_add_cancel fits

/-- An amount that is larger is not taken at all. -/
theorem sub_of_lt (large : v.units.toNat < w.units.toNat) : v.sub w = v := by
  unfold sub
  cases taken : checkedSub v w with
  | error e => rfl
  | ok rest =>
    obtain ⟨-, units, found, -⟩ := combine_eq_ok_iff.mp taken
    have whole : units.toNat + w.units.toNat = v.units.toNat := Amount.sub?_eq_some_iff.mp found
    omega

/-! ### Many amounts -/

/-- The units of some amounts together. -/
def total : List TokenAmount → Nat
  | [] => 0
  | a :: rest => a.units.toNat + total rest

theorem total_append (amounts others : List TokenAmount) :
    total (amounts ++ others) = total amounts + total others := by
  induction amounts with
  | nil => exact (Nat.zero_add _).symm
  | cons a rest ih => rw [List.cons_append, total, total, ih, Nat.add_assoc]

theorem total_concat (amounts : List TokenAmount) (a : TokenAmount) :
    total (amounts ++ [a]) = total amounts + a.units.toNat :=
  total_append amounts [a]

end ChainActivity.TokenAmount
