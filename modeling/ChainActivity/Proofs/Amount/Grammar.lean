import ChainActivity.Proofs.Text.Digits
import Mathlib.Data.List.Forall2
import Mathlib.Data.Nat.Digits.Defs

/-!
# The grammar of amounts

In base ten and in base sixteen the texts of amounts are the rows of digits that take sixty-four
bytes at most, and each of them denotes its positional value.  So many digits never come to more
than two hundred and fifty-six bits: no row of digits is refused for its value.

## Main definitions

* `Radix.StandsFor` — the digits of a base, of either case, and their values.
* `Radix.Denotes` — the positional value of a row of digits.

## Main statements

* `Hex.digitValue?_eq_some_iff`, `Radix.standsFor_iff` — the reader admits these digits and gives
  them these values.
* `Radix.valueFrom_eq` — it computes the positional value, as long as that is an amount.
* `Radix.Denotes.lt_bound` — sixty-four digits are an amount.
* `Amount.ofText_grammar` — which texts are amounts, and why the others are not.

## Design notes

The digits are given as two rows of characters.  So neither the test for a digit nor the value
that the reader finds for it is used to say what a digit is.
-/

namespace ChainActivity

/-! ### Digits -/

namespace Radix

/-- The digits of base sixteen, each at the place of its value. -/
def lowerDigits : List Char := "0123456789abcdef".toList

/-- The same digits with capital letters. -/
def upperDigits : List Char := "0123456789ABCDEF".toList

/-- Whether a character is the digit of a value in a base. -/
def StandsFor (base : Nat) (c : Char) (d : Nat) : Prop :=
  d < base ∧ (lowerDigits[d]? = some c ∨ upperDigits[d]? = some c)

/-- Whether characters are a row of digits of a base with this positional value. -/
def Denotes (base : Nat) (cs : List Char) (n : Nat) : Prop :=
  ∃ ds, List.Forall₂ (StandsFor base) cs ds ∧ n = Nat.ofDigits base ds.reverse

end Radix

namespace Hex

open Radix (lowerDigits upperDigits)

/-- What holds of each character of seven bits by its number holds of all of them. -/
theorem forall_ascii {P : Char → Prop} (each : ∀ n < 128, P (Char.ofNat n)) {c : Char}
    (ascii : c.toNat < 128) : P c := by
  have found := each c.toNat ascii
  rwa [Char.ofNat_toNat] at found

theorem toNat_lt_of_digitValue? {c : Char} {d : Nat} (value : digitValue? c = some d) :
    c.toNat < 128 :=
  toNat_lt_of_isDigit (by rw [isDigit, value, Option.isSome_some])

/-- The characters that have a value are those in the two rows. -/
theorem digitValue?_eq_some_iff {c : Char} {d : Nat} :
    digitValue? c = some d ↔ d < 16 ∧ (lowerDigits[d]? = some c ∨ upperDigits[d]? = some c) := by
  constructor
  · intro value
    exact forall_ascii (P := fun c => ∀ e ∈ digitValue? c,
      e < 16 ∧ (lowerDigits[e]? = some c ∨ upperDigits[e]? = some c))
      (by decide) (toNat_lt_of_digitValue? value) d value
  · have rows : ∀ e < 16, lowerDigits[e]?.bind digitValue? = some e ∧
        upperDigits[e]?.bind digitValue? = some e := by decide
    rintro ⟨small, lower | upper⟩
    · have value := (rows d small).1
      rwa [lower] at value
    · have value := (rows d small).2
      rwa [upper] at value

/-- Decimal digits are those with a value below ten. -/
theorem charIsDigit_iff {c : Char} : c.isDigit = true ↔ ∃ d ∈ digitValue? c, d < 10 := by
  by_cases ascii : c.toNat < 128
  · exact forall_ascii (P := fun c => c.isDigit = true ↔ ∃ d ∈ digitValue? c, d < 10)
      (by decide) ascii
  · refine iff_of_false (fun digit => ?_) ?_
    · simp only [Char.isDigit, Bool.and_eq_true, decide_eq_true_eq] at digit
      have upper : c.toNat ≤ 57 := digit.2
      omega
    · rintro ⟨d, value, -⟩
      exact ascii (toNat_lt_of_digitValue? value)

end Hex

namespace Radix

section Common

variable {base : Nat} (common : base = 10 ∨ base = 16)
include common

/-- The reader knows the digits of the two common bases and their values. -/
theorem standsFor_iff {c : Char} {d : Nat} :
    StandsFor base c d ↔ isDigit base c = true ∧ digitValue base c = d := by
  have places : StandsFor base c d ↔ d < base ∧ Hex.digitValue? c = some d := by
    rw [StandsFor, Hex.digitValue?_eq_some_iff]
    exact and_congr_right fun small => ⟨fun place => ⟨by omega, place⟩, And.right⟩
  have value : digitValue base c = (Hex.digitValue? c).getD 0 := by
    rw [digitValue, if_neg (by omega)]
  have digit : isDigit base c = true ↔ ∃ e ∈ Hex.digitValue? c, e < base := by
    rcases common with rfl | rfl
    · exact Hex.charIsDigit_iff
    · change (Hex.digitValue? c).isSome = true ↔ _
      rw [Option.isSome_iff_exists]
      exact exists_congr fun e => ⟨fun found => ⟨found, (Hex.digitValue?_eq_some_iff.mp found).1⟩,
        And.left⟩
  rw [places, value, digit]
  constructor
  · rintro ⟨small, found⟩
    exact ⟨⟨d, found, small⟩, by rw [found, Option.getD_some]⟩
  · rintro ⟨⟨e, found, small⟩, same⟩
    rw [Option.mem_def.mp found, Option.getD_some] at same
    subst same
    exact ⟨small, found⟩

/-- A row of digits has one list of values. -/
theorem forall₂_standsFor_iff {cs : List Char} {ds : List Nat} :
    List.Forall₂ (StandsFor base) cs ds ↔
      (∀ c ∈ cs, isDigit base c = true) ∧ ds = cs.map (digitValue base) := by
  induction cs generalizing ds with
  | nil => simp
  | cons c cs ih =>
    rw [List.forall₂_cons_left_iff, List.forall_mem_cons, List.map_cons]
    constructor
    · rintro ⟨d, es, first, others, rfl⟩
      obtain ⟨digit, rfl⟩ := (standsFor_iff common).mp first
      obtain ⟨digits, rfl⟩ := ih.mp others
      exact ⟨⟨digit, digits⟩, rfl⟩
    · rintro ⟨⟨digit, digits⟩, rfl⟩
      exact ⟨_, _, (standsFor_iff common).mpr ⟨digit, rfl⟩, ih.mpr ⟨digits, rfl⟩, rfl⟩

theorem denotes_iff {cs : List Char} {n : Nat} :
    Denotes base cs n ↔ (∀ c ∈ cs, isDigit base c = true) ∧
      n = Nat.ofDigits base (cs.map (digitValue base)).reverse := by
  constructor
  · rintro ⟨ds, row, rfl⟩
    obtain ⟨digits, rfl⟩ := (forall₂_standsFor_iff common).mp row
    exact ⟨digits, rfl⟩
  · rintro ⟨digits, rfl⟩
    exact ⟨_, (forall₂_standsFor_iff common).mpr ⟨digits, rfl⟩, rfl⟩

/-- A row of digits denotes one number. -/
theorem Denotes.unique {cs : List Char} {m n : Nat} (one : Denotes base cs m)
    (other : Denotes base cs n) : m = n := by
  rw [denotes_iff common] at one other
  exact one.2.trans other.2.symm

/-! ### Values -/

theorem digitValue_lt {c : Char} (digit : isDigit base c = true) : digitValue base c < base :=
  ((standsFor_iff common).mpr ⟨digit, rfl⟩).1

/-- Sixty-four digits come to less than the bound of amounts. -/
theorem Denotes.lt_bound {cs : List Char} {n : Nat} (denotes : Denotes base cs n)
    (short : cs.length ≤ Amount.maxSize) : n < Amount.bound := by
  obtain ⟨digits, rfl⟩ := (denotes_iff common).mp denotes
  have small : ∀ d ∈ (cs.map (digitValue base)).reverse, d < base := by
    intro d member
    obtain ⟨c, present, rfl⟩ := List.mem_map.mp (List.mem_reverse.mp member)
    exact digitValue_lt common (digits c present)
  calc Nat.ofDigits base (cs.map (digitValue base)).reverse
      < base ^ (cs.map (digitValue base)).reverse.length :=
        Nat.ofDigits_lt_base_pow_length (by omega) small
    _ = base ^ cs.length := by rw [List.length_reverse, List.length_map]
    _ ≤ 16 ^ cs.length := Nat.pow_le_pow_left (by omega) _
    _ ≤ 16 ^ Amount.maxSize := Nat.pow_le_pow_right (by decide) short
    _ = Amount.bound := by decide

omit common in
/-- The reader computes the positional value of the digits behind a number, as long as that is an
amount. -/
theorem valueFrom_eq {n : Nat} {ds : List Nat} (digits : ∀ d ∈ ds, d < base)
    (fits : base ^ ds.length * n + Nat.ofDigits base ds.reverse < Amount.bound) :
    valueFrom base n ds = .ok (base ^ ds.length * n + Nat.ofDigits base ds.reverse) := by
  induction ds generalizing n with
  | nil => simp
  | cons d ds ih =>
    rw [List.forall_mem_cons] at digits
    have power : 0 < base ^ ds.length := Nat.pow_pos (Nat.zero_lt_of_lt digits.1)
    have moved : base ^ (d :: ds).length * n + Nat.ofDigits base (d :: ds).reverse =
        base ^ ds.length * (base * n + d) + Nat.ofDigits base ds.reverse := by
      rw [Nat.ofDigits_reverse_cons, List.length_cons, Nat.pow_succ]
      ring
    rw [moved] at fits ⊢
    have next : base * n + d < Amount.bound :=
      calc base * n + d ≤ base ^ ds.length * (base * n + d) := Nat.le_mul_of_pos_left _ power
        _ ≤ _ := Nat.le_add_right ..
        _ < Amount.bound := fits
    rw [valueFrom, if_neg (Nat.not_le.mpr digits.1), if_neg (Nat.not_le.mpr next)]
    exact ih digits.2 fits

/-- A short row of digits is read as the number that it denotes. -/
theorem value_of_denotes {cs : List Char} {n : Nat} (denotes : Denotes base cs n)
    (short : cs.length ≤ Amount.maxSize) : value base cs = .ok n := by
  have bound := denotes.lt_bound common short
  obtain ⟨digits, rfl⟩ := (denotes_iff common).mp denotes
  have small : ∀ d ∈ cs.map (digitValue base), d < base := by
    intro d member
    obtain ⟨c, present, rfl⟩ := List.mem_map.mp member
    exact digitValue_lt common (digits c present)
  rw [value, if_neg (by omega), if_neg (by omega),
    valueFrom_eq small (by rwa [Nat.mul_zero, Nat.zero_add]), Nat.mul_zero, Nat.zero_add]

end Common

end Radix

/-! ### Texts -/

/-- A text has no more characters than bytes. -/
theorem Utf8.length_le_size (cs : List Char) : cs.length ≤ size cs := by
  induction cs with
  | nil => exact Nat.le_refl 0
  | cons c cs ih =>
    have positive : 0 < c.utf8Size := c.utf8Size_pos
    rw [List.length_cons, size_cons]
    omega

namespace Amount

section Common

variable {base : Nat} (common : base = 10 ∨ base = 16) {text : String}
include common

/-- A short text that denotes a number is read as this number. -/
theorem exists_ofText_of_denotes {n : Nat} (short : text.utf8ByteSize ≤ maxSize)
    (denotes : Radix.Denotes base text.toList n) :
    ∃ a : Amount, a.toNat = n ∧ ofText base text = .ok a := by
  have few : text.toList.length ≤ maxSize :=
    (Utf8.length_le_size _).trans (Utf8.size_toList text ▸ short)
  let a : Amount := ⟨n, denotes.lt_bound common few⟩
  refine ⟨a, rfl, ?_⟩
  by_cases none : text.toList = []
  · have zero : a = .zero := by
      rw [none, Radix.denotes_iff common] at denotes
      exact Amount.ext denotes.2
    rw [ofText, if_neg (Nat.not_lt.mpr short), if_pos (by rw [none]; rfl), zero]
  · exact ofText_of_value short none ((Radix.denotes_iff common).mp denotes).1
      (Radix.value_of_denotes common denotes few)

/-- A short text that denotes none is malformed. -/
theorem ofText_of_not_denotes (short : text.utf8ByteSize ≤ maxSize)
    (other : ¬ ∃ n, Radix.Denotes base text.toList n) :
    ofText base text = .error (.malformed text) := by
  have letters : ¬ text.toList.all (Radix.isDigit base) = true := fun digits =>
    other ⟨_, (Radix.denotes_iff common).mpr ⟨List.all_eq_true.mp digits, rfl⟩⟩
  have present : ¬ text.toList.isEmpty = true := fun none =>
    letters (by rw [List.isEmpty_iff.mp none]; rfl)
  rw [ofText, if_neg (Nat.not_lt.mpr short), if_neg present, if_neg letters]

/-- **The texts of amounts are the rows of at most sixty-four digits**, and the amount is what
the digits denote by their positions.  A longer text is refused for its bytes and any other text
as malformed; the digits themselves never are. -/
theorem ofText_grammar (text : String) :
    (∀ a, ofText base text = .ok a ↔
      text.utf8ByteSize ≤ 64 ∧ Radix.Denotes base text.toList a.toNat) ∧
    ∀ fault, ofText base text = .error fault ↔
      64 < text.utf8ByteSize ∧ fault = .tooLong text.utf8ByteSize ∨
      text.utf8ByteSize ≤ 64 ∧ (¬ ∃ n, Radix.Denotes base text.toList n) ∧
        fault = .malformed text := by
  rcases Nat.lt_or_ge 64 text.utf8ByteSize with long | short
  · have read : ofText base text = .error (.tooLong text.utf8ByteSize) := if_pos long
    simp [read, long, Nat.not_le.mpr long, eq_comm]
  · by_cases row : ∃ n, Radix.Denotes base text.toList n
    · obtain ⟨n, denotes⟩ := row
      obtain ⟨a, rfl, read⟩ := exists_ofText_of_denotes common short denotes
      constructor
      · intro b
        rw [read]
        constructor
        · rintro ⟨⟩
          exact ⟨short, denotes⟩
        · rintro ⟨-, other⟩
          exact congrArg _ (Amount.ext (denotes.unique common other))
      · intro fault
        simp [read, Nat.not_lt.mpr short, Exists.intro _ denotes]
    · have read := ofText_of_not_denotes common short row
      constructor
      · intro a
        rw [read]
        exact iff_of_false (fun same => nomatch same) fun ⟨_, denotes⟩ => row ⟨_, denotes⟩
      · intro fault
        simp [read, short, Nat.not_lt.mpr short, row, eq_comm]

end Common

/-- The largest amount fills sixty-four digits; the mark `0x` is no digit, and letters of two bytes
count twice. -/
theorem ofText_grammar_of_hexadecimal :
    let longest := String.ofList (List.replicate 64 'F')
    let letters := String.ofList (List.replicate 33 'é')
    (16 = 10 ∨ 16 = 16) ∧ ofText 16 longest = .ok ⟨2 ^ 256 - 1, by decide⟩ ∧
      ofText 16 "0xff" = .error (.malformed "0xff") ∧ ofText 16 letters = .error (.tooLong 66) := by
  intro longest letters
  have common : 16 = 10 ∨ 16 = 16 := .inr rfl
  refine ⟨common, ?_, ?_, ?_⟩
  · refine ((ofText_grammar common longest).1 _).mpr ⟨by decide, ?_⟩
    have digits : ∀ c ∈ longest.toList, Radix.isDigit 16 c = true := fun c member => by
      rw [String.toList_ofList] at member
      rw [List.eq_of_mem_replicate member]
      decide
    exact (Radix.denotes_iff common).mpr ⟨digits, by decide⟩
  · refine ((ofText_grammar common "0xff").2 _).mpr (.inr ⟨by decide, fun ⟨n, row⟩ => ?_, rfl⟩)
    exact absurd (((Radix.denotes_iff common).mp row).1 'x' (by decide)) (by decide)
  · exact ((ofText_grammar common letters).2 _).mpr (.inl ⟨by decide, by decide⟩)

end Amount
end ChainActivity
