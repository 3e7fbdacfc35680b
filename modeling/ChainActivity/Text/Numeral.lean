import ChainActivity.Text.Hex

/-!
# Numerals of fixed-width numbers

A numeral is a row of digits, perhaps behind a plus sign, whose value fits a number of
fixed width.

## Main definitions

* `Numeral.Fault` — why a text is no numeral, with `Numeral.Fault.message`.
* `Numeral.value` — the value of a numeral in a base, below a limit.
-/

namespace ChainActivity.Numeral

/-- Why a text is no numeral. -/
inductive Fault where
  | empty
  | invalidDigit
  | overflow
  deriving DecidableEq, Repr

/-- The wording of a fault. -/
def Fault.message : Fault → String
  | .empty => "cannot parse integer from empty string"
  | .invalidDigit => "invalid digit found in string"
  | .overflow => "number too large to fit in target type"

/-- The value of a digit in a base of at most sixteen. -/
def digit? (base : Nat) (c : Char) : Option Nat :=
  (Hex.digitValue? c).filter fun d => decide (d < base)

/-- Appends digits to a number; the first fault from the left is reported. -/
def valueFrom (base limit n : Nat) : List Char → Except Fault Nat
  | [] => .ok n
  | c :: cs =>
    match digit? base c with
    | none => .error .invalidDigit
    | some d =>
      if n * base + d < limit then valueFrom base limit (n * base + d) cs else .error .overflow

/-- The value of a numeral. -/
def value (base limit : Nat) (cs : List Char) : Except Fault Nat :=
  match cs with
  | [] => .error .empty
  | ['+'] => .error .invalidDigit
  | '+' :: digits => valueFrom base limit 0 digits
  | digits => valueFrom base limit 0 digits

/-- A value is below the limit. -/
theorem valueFrom_lt {base limit n m : Nat} {cs : List Char} (hn : n < limit)
    (h : valueFrom base limit n cs = .ok m) : m < limit := by
  induction cs generalizing n with
  | nil => cases h; exact hn
  | cons c cs ih =>
    rw [valueFrom] at h
    split at h
    · cases h
    · split at h
      · next small => exact ih small h
      · cases h

end ChainActivity.Numeral
