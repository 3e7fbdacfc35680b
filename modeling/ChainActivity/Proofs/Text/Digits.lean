import ChainActivity.Amount.Radix
import ChainActivity.Text.Numeral
import Mathlib.Algebra.Group.Nat.Defs

/-!
# Numbers as digits

Writing a number in hexadecimal digits and reading the digits gives the number back,
whichever of the two readers is used: the one for numerals of a fixed width or the one
for amounts.

## Main statements

* `Hex.isDigit_of_mem_encode`, `Hex.isDigit_of_mem_ofNat` — what is written are digits.
* `Numeral.value_toDigits` — the reader of numerals on the digits of a number.
* `Numeral.value_ofNat` — the reader of numerals on the whole bytes of a number.
* `Amount.ofText_ofNat` — the reader of amounts on the whole bytes of an amount.
* `Amount.ofText_toDecimal` — the reader of amounts on the decimal digits of an amount.

## Design notes

Digits are written from the last one on and read from the first one on.  Both readers
are therefore shown to read an appended list in two parts, and the induction is on the
number, along `Nat.toDigits_eq_if`.
-/

namespace ChainActivity

/-! ### Sizes of digits -/

/-- The size of a text is the number of its bytes. -/
theorem Utf8.size_toList (s : String) : Utf8.size s.toList = s.utf8ByteSize := by
  rw [← Utf8.length_encode, Utf8.encode_toList]
  rfl

namespace Hex

/-- A character that stands for a value below sixteen is a digit. -/
theorem isDigit_digitChar {n : Nat} (small : n < 16) : isDigit (digitChar n) = true := by
  rw [isDigit, digitValue?_digitChar small]
  rfl

/-- A digit of either case is a character of seven bits. -/
theorem toNat_lt_of_isDigit {c : Char} (digit : isDigit c = true) : c.toNat < 128 := by
  rw [isDigit, digitValue?] at digit
  simp only [Char.le_def, UInt32.le_iff_toNat_le] at digit
  change c.val.toNat < 128
  split at digit
  · next range => exact Nat.lt_of_le_of_lt range.2 (by decide)
  · split at digit
    · next range => exact Nat.lt_of_le_of_lt range.2 (by decide)
    · split at digit
      · next range => exact Nat.lt_of_le_of_lt range.2 (by decide)
      · cases digit

/-- A digit of either case takes one byte. -/
theorem utf8Size_of_isDigit {c : Char} (digit : isDigit c = true) : c.utf8Size = 1 := by
  have ascii : c.val.toNat < 128 := toNat_lt_of_isDigit digit
  rw [Char.utf8Size, if_pos]
  rw [UInt32.le_iff_toNat_le]
  exact Nat.le_of_lt_succ ascii

/-- Digits take one byte each. -/
theorem size_of_forall_isDigit {cs : List Char} (digits : ∀ c ∈ cs, isDigit c = true) :
    Utf8.size cs = cs.length := by
  induction cs with
  | nil => rfl
  | cons c cs ih =>
    rw [Utf8.size_cons, utf8Size_of_isDigit (digits c List.mem_cons_self),
      ih fun d member => digits d (List.mem_cons_of_mem c member), List.length_cons, Nat.add_comm]

/-- Bytes are written in digits. -/
theorem isDigit_of_mem_encode {bytes : List UInt8} {c : Char} (member : c ∈ encode bytes) :
    isDigit c = true := by
  induction bytes with
  | nil => cases member
  | cons b bytes ih =>
    have small : b.toNat < 256 := b.toNat_lt
    simp only [encode_cons, List.mem_cons] at member
    rcases member with rfl | rfl | later
    · exact isDigit_digitChar (by omega)
    · exact isDigit_digitChar (by omega)
    · exact ih later

/-- The digits of a number are digits. -/
theorem isDigit_of_mem_toDigits {base n : Nat} {c : Char} (two_le : 1 < base)
    (le_sixteen : base ≤ 16) (member : c ∈ Nat.toDigits base n) : isDigit c = true := by
  induction n using Nat.strongRecOn with
  | ind n ih =>
    rw [Nat.toDigits_eq_if two_le] at member
    split at member
    · next small =>
      rw [List.mem_singleton] at member
      subst member
      exact isDigit_digitChar (by omega)
    · next large =>
      rw [List.mem_append, List.mem_singleton] at member
      rcases member with earlier | rfl
      · exact ih (n / base) (Nat.div_lt_self (by omega) two_le) earlier
      · exact isDigit_digitChar (Nat.lt_of_lt_of_le (Nat.mod_lt n (by omega)) le_sixteen)

/-- The whole bytes of a number are written in digits. -/
theorem isDigit_of_mem_ofNat {n : Nat} {c : Char} (member : c ∈ ofNat n) : isDigit c = true := by
  rw [ofNat] at member
  split at member
  · rcases List.mem_cons.mp member with rfl | later
    · decide
    · exact isDigit_of_mem_toDigits (by decide) (by decide) later
  · exact isDigit_of_mem_toDigits (by decide) (by decide) member

/-- A number is written with at least one digit. -/
theorem ofNat_ne_nil (n : Nat) : ofNat n ≠ [] := by
  rw [ofNat]
  split
  · exact List.cons_ne_nil _ _
  · exact Nat.toDigits_ne_nil

/-- A number that fits some bytes is written with two digits for each of them at
most. -/
theorem length_ofNat_le {n size : Nat} (positive : 0 < size) (small : n < 256 ^ size) :
    (ofNat n).length ≤ 2 * size := by
  have power : (256 : Nat) ^ size = 16 ^ (2 * size) := by
    rw [Nat.pow_mul]
  have short : (Nat.toDigits 16 n).length ≤ 2 * size :=
    (Nat.length_toDigits_le_iff (by decide) (by omega)).mpr (power ▸ small)
  rw [ofNat]
  split
  · next odd => rw [List.length_cons]; omega
  · exact short

end Hex

/-! ### The reader of numerals -/

namespace Numeral

/-- Digits in two parts are read one part after the other. -/
theorem valueFrom_append (base limit n : Nat) (cs ds : List Char) :
    valueFrom base limit n (cs ++ ds) =
      (valueFrom base limit n cs).bind fun m => valueFrom base limit m ds := by
  induction cs generalizing n with
  | nil => rfl
  | cons c cs ih =>
    rw [List.cons_append, valueFrom, valueFrom]
    cases digit? base c with
    | none => rfl
    | some d =>
      dsimp only
      split
      · exact ih _
      · rfl

/-- A written digit has its value in every base above it. -/
theorem digit?_digitChar {base n : Nat} (le_sixteen : base ≤ 16) (small : n < base) :
    digit? base (Nat.digitChar n) = some n := by
  have value : Hex.digitValue? (Nat.digitChar n) = some n :=
    Hex.digitValue?_digitChar (Nat.lt_of_lt_of_le small le_sixteen)
  rw [digit?, value, Option.filter_some, if_pos (decide_eq_true small)]

/-- Reading the digits of a number gives the number back. -/
theorem valueFrom_toDigits {base limit n : Nat} (two_le : 1 < base) (le_sixteen : base ≤ 16)
    (below : n < limit) : valueFrom base limit 0 (Nat.toDigits base n) = .ok n := by
  induction n using Nat.strongRecOn with
  | ind n ih =>
    rw [Nat.toDigits_eq_if two_le]
    split
    · next small =>
      rw [valueFrom, digit?_digitChar le_sixteen small]
      simp only [Nat.zero_mul, Nat.zero_add, if_pos below, valueFrom]
    · next large =>
      have shorter : n / base < n := Nat.div_lt_self (by omega) two_le
      have last : n % base < base := Nat.mod_lt n (by omega)
      have whole : n / base * base + n % base = n := Nat.div_add_mod' n base
      -- the digits before the last one are those of a smaller number
      rw [valueFrom_append, ih (n / base) shorter (by omega), Except.bind, valueFrom,
        digit?_digitChar le_sixteen last]
      simp only [whole, if_pos below, valueFrom]

/-- A text that begins with another character than the sign is read as digits. -/
theorem value_of_ne_plus {base limit : Nat} {c : Char} {cs : List Char} (unsigned : c ≠ '+') :
    value base limit (c :: cs) = valueFrom base limit 0 (c :: cs) := by
  rw [value]
  · exact List.cons_ne_nil c cs
  · intro sign
    exact unsigned (List.cons.inj sign).1
  · intro digits sign
    exact unsigned (List.cons.inj sign).1

/-- Behind a sign stand digits. -/
theorem value_of_plus {base limit : Nat} {cs : List Char} (present : cs ≠ []) :
    value base limit ('+' :: cs) = valueFrom base limit 0 cs := by
  cases cs with
  | nil => exact absurd rfl present
  | cons c cs => rfl

/-- A text that begins with a digit has no sign. -/
theorem value_of_isDigit {base limit : Nat} {c : Char} {cs : List Char}
    (digit : Hex.isDigit c = true) :
    value base limit (c :: cs) = valueFrom base limit 0 (c :: cs) := by
  apply value_of_ne_plus
  rintro rfl
  exact absurd digit (by decide)

/-- The numeral that the digits of a number are has the number as its value. -/
theorem value_toDigits {base limit n : Nat} (two_le : 1 < base) (le_sixteen : base ≤ 16)
    (below : n < limit) : value base limit (Nat.toDigits base n) = .ok n := by
  rw [← valueFrom_toDigits two_le le_sixteen below]
  cases split : Nat.toDigits base n with
  | nil => exact absurd split Nat.toDigits_ne_nil
  | cons c cs =>
    have member : c ∈ Nat.toDigits base n := split ▸ List.mem_cons_self
    exact value_of_isDigit (Hex.isDigit_of_mem_toDigits two_le le_sixteen member)

/-- The whole bytes of a number are a numeral of the number. -/
theorem value_ofNat {limit n : Nat} (below : n < limit) :
    value 16 limit (Hex.ofNat n) = .ok n := by
  rw [Hex.ofNat]
  split
  · rw [value_of_isDigit (by decide), valueFrom, show digit? 16 '0' = some 0 by decide]
    simp only [Nat.zero_mul, Nat.zero_add, if_pos (Nat.zero_lt_of_lt below)]
    exact valueFrom_toDigits (by decide) (by decide) below
  · exact value_toDigits (by decide) (by decide) below

end Numeral

/-! ### The reader of amounts -/

namespace Radix

/-- Digit values in two parts are read one part after the other. -/
theorem valueFrom_append (base n : Nat) (ds es : List Nat) :
    valueFrom base n (ds ++ es) =
      (valueFrom base n ds).bind fun m => valueFrom base m es := by
  induction ds generalizing n with
  | nil => rfl
  | cons d ds ih =>
    rw [List.cons_append, valueFrom, valueFrom]
    split
    · rfl
    · split
      · rfl
      · exact ih _

/-- A written digit has its value. -/
theorem digitValue_digitChar {base n : Nat} (le_sixteen : base ≤ 16) (small : n < base) :
    digitValue base (Nat.digitChar n) = n := by
  have value : Hex.digitValue? (Nat.digitChar n) = some n :=
    Hex.digitValue?_digitChar (Nat.lt_of_lt_of_le small le_sixteen)
  rw [digitValue, if_neg (by omega), value, Option.getD_some]

/-- Reading the digits of a number of two hundred and fifty-six bits gives the number
back. -/
theorem valueFrom_toDigits {base n : Nat} (two_le : 1 < base) (le_sixteen : base ≤ 16)
    (below : n < Amount.bound) :
    valueFrom base 0 ((Nat.toDigits base n).map (digitValue base)) = .ok n := by
  induction n using Nat.strongRecOn with
  | ind n ih =>
    rw [Nat.toDigits_eq_if two_le]
    split
    · next small =>
      rw [List.map_singleton, digitValue_digitChar le_sixteen small, valueFrom, Nat.mul_zero,
        Nat.zero_add, if_neg (by omega), if_neg (by omega), valueFrom]
    · next large =>
      have shorter : n / base < n := Nat.div_lt_self (by omega) two_le
      have last : n % base < base := Nat.mod_lt n (by omega)
      have whole : base * (n / base) + n % base = n := Nat.div_add_mod n base
      rw [List.map_append, valueFrom_append, ih (n / base) shorter (by omega), Except.bind,
        List.map_singleton, digitValue_digitChar le_sixteen last, valueFrom, whole,
        if_neg (by omega), if_neg (by omega), valueFrom]

/-- The whole bytes of a number denote the number. -/
theorem value_ofNat {n : Nat} (below : n < Amount.bound) : value 16 (Hex.ofNat n) = .ok n := by
  rw [value, if_neg (by decide), if_neg (by decide), Hex.ofNat]
  split
  · rw [List.map_cons, show digitValue 16 '0' = 0 by decide, valueFrom, if_neg (by decide),
      if_neg (by decide)]
    exact valueFrom_toDigits (by decide) (by decide) below
  · exact valueFrom_toDigits (by decide) (by decide) below

end Radix

/-- Digits of a base that denote an amount are read as that amount. -/
theorem Amount.ofText_of_value {base : Nat} {text : String} {a : Amount}
    (short : text.utf8ByteSize ≤ maxSize) (present : text.toList ≠ [])
    (digits : ∀ c ∈ text.toList, Radix.isDigit base c = true)
    (value : Radix.value base text.toList = .ok a.toNat) : Amount.ofText base text = .ok a := by
  have nonempty : ¬ text.toList.isEmpty = true := by simpa using present
  rw [Amount.ofText, if_neg (Nat.not_lt.mpr short), if_neg nonempty,
    if_pos (List.all_eq_true.mpr digits)]
  split
  · next n found =>
    have same : n = a.toNat := by simpa using found.symm.trans value
    subst same
    rfl
  · next fault found => cases found.symm.trans value

/-- Reading the whole bytes of an amount gives the amount back. -/
theorem Amount.ofText_ofNat (a : Amount) :
    Amount.ofText 16 (String.ofList (Hex.ofNat a.toNat)) = .ok a := by
  have digits : ∀ c ∈ Hex.ofNat a.toNat, Hex.isDigit c = true :=
    fun _ member => Hex.isDigit_of_mem_ofNat member
  apply Amount.ofText_of_value
  · rw [← Utf8.size_toList, String.toList_ofList, Hex.size_of_forall_isDigit digits]
    have bytes : a.toNat < 256 ^ 32 := Nat.lt_of_lt_of_eq a.isLt (by rw [bound]; rfl)
    exact Hex.length_ofNat_le (by decide) bytes
  · rw [String.toList_ofList]
    exact Hex.ofNat_ne_nil a.toNat
  · rw [String.toList_ofList]
    exact digits
  · rw [String.toList_ofList]
    exact Radix.value_ofNat a.isLt

/-- The decimal digits of a number take one byte each. -/
theorem Amount.utf8ByteSize_toDigits (n : Nat) :
    (String.ofList (Nat.toDigits 10 n)).utf8ByteSize = (Nat.toDigits 10 n).length := by
  rw [← Utf8.size_toList, String.toList_ofList]
  exact Hex.size_of_forall_isDigit fun _ => Hex.isDigit_of_mem_toDigits (by decide) (by decide)

theorem Amount.utf8ByteSize_toDecimal (a : Amount) :
    (String.ofList a.toDecimal).utf8ByteSize = a.toDecimal.length :=
  utf8ByteSize_toDigits a.toNat

/-- The amounts of at most sixty-four decimal digits. -/
theorem Amount.length_toDecimal_le_iff (a : Amount) :
    a.toDecimal.length ≤ maxSize ↔ a.toNat < 10 ^ 64 :=
  Nat.length_toDigits_le_iff (by decide) (by decide)

/-- Reading the decimal digits of an amount gives the amount back, if they are not too many. -/
theorem Amount.ofText_toDecimal (a : Amount) :
    Amount.ofText 10 (String.ofList a.toDecimal) =
      if a.toDecimal.length ≤ maxSize then .ok a else .error (.tooLong a.toDecimal.length) := by
  split
  · next short =>
    apply Amount.ofText_of_value
    · rwa [utf8ByteSize_toDecimal]
    · rw [String.toList_ofList]
      exact Nat.toDigits_ne_nil
    · rw [String.toList_ofList]
      exact fun _ => Nat.isDigit_of_mem_toDigits (by decide) (by decide)
    · rw [String.toList_ofList]
      rw [Radix.value, if_neg (by decide), if_neg (by decide)]
      exact Radix.valueFrom_toDigits (by decide) (by decide) a.isLt
  · next long =>
    rw [ofText, utf8ByteSize_toDecimal, if_pos (Nat.lt_of_not_le long)]

end ChainActivity
