/-!
# Amounts

An amount of a token is counted in the token's smallest unit and has two hundred
and fifty-six bits.

## Main definitions

* `Amount` — a number below `Amount.bound`, which is `2 ^ 256`.
* `Amount.add?`, `Amount.sub?` — sum and difference, if they are amounts.
* `Amount.toDecimal` — the digits of an amount.
-/

namespace ChainActivity

/-- The smallest number that is too large to be an amount. -/
def Amount.bound : Nat := 1 <<< 256

/-- A number of smallest units. -/
structure Amount where
  toNat : Nat
  isLt : toNat < Amount.bound
  deriving DecidableEq, Repr

namespace Amount

/-- Nothing. -/
def zero : Amount := ⟨0, by decide⟩

instance : Inhabited Amount := ⟨zero⟩

/-- A number as an amount, if it is small enough. -/
def ofNat? (n : Nat) : Option Amount :=
  if h : n < bound then some ⟨n, h⟩ else none

/-- The sum of two amounts, if it is an amount. -/
def add? (a b : Amount) : Option Amount :=
  ofNat? (a.toNat + b.toNat)

/-- The difference of two amounts, if the second is no larger than the first. -/
def sub? (a b : Amount) : Option Amount :=
  if b.toNat ≤ a.toNat then ofNat? (a.toNat - b.toNat) else none

/-- The digits of an amount, without leading zeros. -/
def toDecimal (a : Amount) : List Char :=
  Nat.toDigits 10 a.toNat

/-! ### Laws -/

@[ext] theorem ext {a b : Amount} (h : a.toNat = b.toNat) : a = b := by
  cases a; cases b; cases h; rfl

@[simp] theorem toNat_zero : zero.toNat = 0 := rfl

@[simp] theorem ofNat?_toNat (a : Amount) : ofNat? a.toNat = some a :=
  dif_pos a.isLt

/-- A number becomes the amount of that number and no other. -/
theorem ofNat?_eq_some_iff {n : Nat} {a : Amount} : ofNat? n = some a ↔ n = a.toNat := by
  constructor
  · intro h
    rw [ofNat?] at h
    split at h
    · cases h; rfl
    · cases h
  · rintro rfl
    exact ofNat?_toNat a

theorem ofNat?_eq_none_iff {n : Nat} : ofNat? n = none ↔ bound ≤ n := by
  rw [ofNat?]
  split
  · next h => simpa using h
  · next h => simpa using h

/-- A sum is the sum of the numbers. -/
theorem add?_eq_some_iff {a b c : Amount} : a.add? b = some c ↔ a.toNat + b.toNat = c.toNat :=
  ofNat?_eq_some_iff

/-- A difference is what has to be added to get the first number back. -/
theorem sub?_eq_some_iff {a b c : Amount} : a.sub? b = some c ↔ c.toNat + b.toNat = a.toNat := by
  rw [sub?]
  split
  · next h => rw [ofNat?_eq_some_iff]; omega
  · next h =>
    constructor
    · intro h'; cases h'
    · intro h'; omega

end Amount

end ChainActivity
