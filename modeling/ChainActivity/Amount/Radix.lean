import ChainActivity.Amount.Basic
import ChainActivity.Text.Hex

/-!
# Reading amounts

Amounts arrive as digits: decimal ones in the fields of a transaction, hexadecimal
ones in the terms of a call.  A text of at most sixty-four bytes is read in any
base, the empty text as zero.

## Main definitions

* `Radix.Fault` — why digits denote no amount in some base.
* `Radix.valueFrom` — the number that digit values denote.
* `AmountError`, `AmountError.message` — why a text denotes no amount.
* `Amount.ofText` — the amount that a text denotes.

## Design notes

Base sixteen admits hexadecimal digits of either case and every other base admits
decimal digits only, whatever the base.  From base thirty-seven on the digit values
follow the order of letters before digits, so that `0` stands for fifty-two.
-/

namespace ChainActivity

/-- Why digits denote no amount in a base. -/
inductive Radix.Fault where
  /-- The base is above sixty-four. -/
  | tooLargeBase (base : Nat)
  /-- The base is zero or one. -/
  | tooSmallBase (base : Nat)
  /-- A digit is not below the base. -/
  | digit (value base : Nat)
  /-- The number has more than two hundred and fifty-six bits. -/
  | overflow
  deriving DecidableEq, Repr

namespace Radix

/-- A base fault in words. -/
def Fault.message : Fault → String
  | .tooLargeBase base => s!"invalid radix {base}, up to 64 is supported"
  | .tooSmallBase base => s!"the requested number base {base} is less than two"
  | .digit value base => s!"digit {value} is out of range for base {base}"
  | .overflow => "the value is too large to fit the target type"

/-- Whether a character is a digit of a base. -/
def isDigit (base : Nat) (c : Char) : Bool :=
  if base = 16 then Hex.isDigit c else c.isDigit

/-- The value of a digit in a base. -/
def digitValue (base : Nat) (c : Char) : Nat :=
  if 36 < base then c.toNat - '0'.toNat + 52 else (Hex.digitValue? c).getD 0

/-- Appends digit values to a number; the first fault from the left is reported. -/
def valueFrom (base n : Nat) : List Nat → Except Fault Nat
  | [] => .ok n
  | d :: ds =>
    if base ≤ d then .error (.digit d base)
    else if Amount.bound ≤ base * n + d then .error .overflow
    else valueFrom base (base * n + d) ds

/-- The number that digits denote in a base. -/
def value (base : Nat) (cs : List Char) : Except Fault Nat :=
  if 64 < base then .error (.tooLargeBase base)
  else if base < 2 then .error (.tooSmallBase base)
  else valueFrom base 0 (cs.map (digitValue base))

@[simp] theorem valueFrom_nil (base n : Nat) : valueFrom base n [] = .ok n := rfl

/-- Reading keeps the number below the bound. -/
theorem valueFrom_lt {base n m : Nat} {ds : List Nat} (hn : n < Amount.bound)
    (h : valueFrom base n ds = .ok m) : m < Amount.bound := by
  induction ds generalizing n with
  | nil => cases h; exact hn
  | cons d ds ih =>
    rw [valueFrom] at h
    split at h
    · cases h
    · split at h
      · cases h
      · next small => exact ih (Nat.lt_of_not_le small) h

/-- Digits denote an amount or nothing. -/
theorem value_lt {base m : Nat} {cs : List Char} (h : value base cs = .ok m) :
    m < Amount.bound := by
  rw [value] at h
  split at h
  · cases h
  · split at h
    · cases h
    · exact valueFrom_lt (by decide) h

end Radix

/-- Why a text denotes no amount. -/
inductive AmountError where
  /-- The text has more than sixty-four bytes. -/
  | tooLong (size : Nat)
  /-- The text holds a character that is no digit. -/
  | malformed (text : String)
  /-- The digits of the text denote no amount. -/
  | noValue (text : String) (fault : Radix.Fault)
  deriving DecidableEq, Repr

/-- The error in words. -/
def AmountError.message : AmountError → String
  | .tooLong size => s!"Raw amount is {size} characters long (max 64)"
  | .malformed text => s!"Malformed raw amount: {text}"
  | .noValue text fault => s!"Malformed raw amount: {text}: {fault.message}"

namespace Amount

/-- The number of bytes of the longest text that is read. -/
def maxSize : Nat := 64

/-- The amount that a text denotes in a base. -/
def ofText (base : Nat) (text : String) : Except AmountError Amount :=
  if maxSize < text.utf8ByteSize then .error (.tooLong text.utf8ByteSize)
  else if text.toList.isEmpty then .ok zero
  else if text.toList.all (Radix.isDigit base) then
    match h : Radix.value base text.toList with
    | .ok n => .ok ⟨n, Radix.value_lt h⟩
    | .error fault => .error (.noValue text fault)
  else .error (.malformed text)

end Amount

end ChainActivity
