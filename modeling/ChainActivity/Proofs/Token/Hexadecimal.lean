import ChainActivity.Proofs.Amount.Grammar
import ChainActivity.Proofs.Call.RoundTrip
import ChainActivity.Token.Amount

/-!
# Amounts in hexadecimal digits

An amount is written in whole bytes: two digits for each byte, the most significant byte first and
no zero byte in front of others.  Every reader of hexadecimal digits gives the amount back, so that
two amounts are never written alike.

## Main definitions

* `Hex.bigEndian` — the bytes of a number.

## Main statements

* `Hex.encode_bigEndian` — the digits of a number are those of its bytes.
* `TokenAmount.toHex_eq` — so are those of an amount.
* `TokenAmount.ofHex_toHex`, `TokenAmount.ofHex_marked_toHex` — an amount from its digits, with the
  mark `0x` in front or without it.
* `TokenAmount.toHex_faithful` — the shape of the digits, and that they denote the amount.

## Design notes

Digits are cut off a number two at a time, as bytes are cut off it.  So the number of digits is
even at every step but the last, where a single one gets a zero in front.
-/

namespace ChainActivity

/-! ### Whole bytes -/

namespace Hex

/-- The bytes of a number, most significant first.  None of them is a zero in front, but that zero
itself has one byte. -/
def bigEndian (n : Nat) : List UInt8 :=
  if n = 0 then [0] else (Nat.digits 256 n).reverse.map UInt8.ofNat

theorem bigEndian_of_lt {n : Nat} (small : n < 256) : bigEndian n = [UInt8.ofNat n] := by
  rw [bigEndian]
  split
  · next zero => rw [zero]; rfl
  · next some => rw [Nat.digits_of_lt 256 n some small]; rfl

theorem bigEndian_of_le {n : Nat} (large : 256 ≤ n) :
    bigEndian n = bigEndian (n / 256) ++ [UInt8.ofNat (n % 256)] := by
  have front : n / 256 ≠ 0 := by omega
  rw [bigEndian, if_neg (by omega), bigEndian, if_neg front,
    Nat.digits_def' (by decide) (by omega), List.reverse_cons, List.map_append, List.map_singleton]

/-- Bytes are written one after the other. -/
theorem encode_append (bytes others : List UInt8) :
    encode (bytes ++ others) = encode bytes ++ encode others := by
  induction bytes with
  | nil => rfl
  | cons b bytes ih => rw [List.cons_append, encode_cons, ih, encode_cons]; rfl

/-- A number below two hundred and fifty-six is one byte. -/
theorem ofNat_of_lt {n : Nat} (small : n < 256) : ofNat n = encode [UInt8.ofNat n] := by
  have byte : (UInt8.ofNat n).toNat = n := UInt8.toNat_ofNat_of_lt small
  rw [encode_cons, byte, ofNat]
  rcases Nat.lt_or_ge n 16 with single | double
  · have front : n / 16 = 0 := by omega
    rw [Nat.toDigits_of_lt_base single, front, Nat.mod_eq_of_lt single]
    rfl
  · rw [Nat.toDigits_of_base_le (by decide) double, Nat.toDigits_of_lt_base (by omega)]
    exact if_neg (by simp)

/-- The last byte of a larger number stands behind those of the number before it. -/
theorem ofNat_of_le {n : Nat} (large : 256 ≤ n) :
    ofNat n = ofNat (n / 256) ++ encode [UInt8.ofNat (n % 256)] := by
  have last : encode [UInt8.ofNat (n % 256)] =
      [Nat.digitChar (n / 16 % 16), Nat.digitChar (n % 16)] := by
    have byte : (UInt8.ofNat (n % 256)).toNat = n % 256 :=
      UInt8.toNat_ofNat_of_lt (Nat.mod_lt n (by decide))
    have high : n % 256 / 16 = n / 16 % 16 := by omega
    have low : n % 256 % 16 = n % 16 := by omega
    rw [encode_cons, byte, high, low]
    rfl
  have digits : Nat.toDigits 16 n =
      Nat.toDigits 16 (n / 256) ++ [Nat.digitChar (n / 16 % 16), Nat.digitChar (n % 16)] := by
    have front : n / 16 / 16 = n / 256 := by omega
    rw [Nat.toDigits_of_base_le (by decide) (by omega),
      Nat.toDigits_of_base_le (by decide) (by omega), front, List.append_assoc]
    rfl
  rw [last, ofNat, ofNat, digits]
  simp only [List.length_append, List.length_cons, List.length_nil, Nat.add_mod_right]
  split <;> rfl

/-- The digits of a number are the digits of its bytes. -/
theorem encode_bigEndian (n : Nat) : encode (bigEndian n) = ofNat n := by
  induction n using Nat.strongRecOn with
  | ind n ih =>
    rcases Nat.lt_or_ge n 256 with small | large
    · rw [bigEndian_of_lt small, ofNat_of_lt small]
    · have shorter : n / 256 < n := Nat.div_lt_self (by omega) (by decide)
      rw [bigEndian_of_le large, ofNat_of_le large, encode_append, ih _ shorter]

/-- Bytes are written in lower case. -/
theorem mem_lowerDigits_of_mem_encode {bytes : List UInt8} {c : Char} (member : c ∈ encode bytes) :
    c ∈ Radix.lowerDigits := by
  have row : ∀ d < 16, digitChar d ∈ Radix.lowerDigits := by decide
  induction bytes with
  | nil => cases member
  | cons b bytes ih =>
    have small : b.toNat < 256 := b.toNat_lt
    simp only [encode_cons, List.mem_cons] at member
    rcases member with rfl | rfl | later
    · exact row _ (by omega)
    · exact row _ (by omega)
    · exact ih later

/-- Behind the mark stands the whole text. -/
theorem withoutMark_marked (text : String) : withoutMark ("0x" ++ text) = text := by
  have marked : ("0x" ++ text).toList = '0' :: 'x' :: text.toList := by
    rw [String.toList_append]
    rfl
  rw [withoutMark, marked]
  exact String.ofList_toList

end Hex

/-! ### Amounts -/

namespace TokenAmount

variable (v : TokenAmount)

theorem toHex_eq : v.toHex = String.ofList (Hex.encode (Hex.bigEndian v.units.toNat)) := by
  rw [toHex, Hex.encode_bigEndian]

/-- The digits of an amount are read as the amount. -/
theorem ofText_toHex : Amount.ofText 16 v.toHex = .ok v.units :=
  Amount.ofText_ofNat v.units

theorem isDigit_of_mem_toHex {c : Char} (member : c ∈ v.toHex.toList) : Hex.isDigit c = true := by
  rw [toHex, String.toList_ofList] at member
  exact Hex.isDigit_of_mem_ofNat member

section Known

variable {v} {decimals : Decimals} {token : String} {places : UInt32}

/-- A text that is read as an amount is read as one of every token whose decimal places are
known. -/
theorem ofText_eq_ok {base : Nat} {text : String} {units : Amount}
    (known : decimals token = some places) (read : Amount.ofText base text = .ok units) :
    ofText decimals token base text = .ok (of units places token) := by
  rw [ofText, read]
  simp only [ofUnits, known]

/-- So are the digits of an amount, and the mark in front of them makes no difference. -/
theorem ofHex_toHex (known : decimals token = some places) :
    ofHex decimals token v.toHex = .ok (of v.units places token) := by
  rw [ofHex, Hex.withoutMark_of_forall_isDigit fun c => v.isDigit_of_mem_toHex]
  exact ofText_eq_ok known v.ofText_toHex

theorem ofHex_marked_toHex (known : decimals token = some places) :
    ofHex decimals token ("0x" ++ v.toHex) = .ok (of v.units places token) := by
  rw [ofHex, Hex.withoutMark_marked]
  exact ofText_eq_ok known v.ofText_toHex

end Known

/-- **An amount is written in whole bytes and read back by every reader**: its digits are at least
two and at most sixty-four, even in number and in lower case; read as an amount, with the mark or
without it, they are the amount, and read as bytes they are its bytes.  Amounts that differ are
written differently. -/
theorem toHex_faithful {decimals : Decimals} {token : String} {places : UInt32}
    (known : decimals token = some places) :
    (v.toHex ≠ "" ∧ (∀ c ∈ v.toHex.toList, c ∈ Radix.lowerDigits) ∧ v.toHex.length % 2 = 0 ∧
      v.toHex.length ≤ 64) ∧
    Amount.ofText 16 v.toHex = .ok v.units ∧
    (ofHex decimals token v.toHex = .ok (of v.units places token) ∧
      ofHex decimals token ("0x" ++ v.toHex) = .ok (of v.units places token)) ∧
    Term.bytes v.toHex = .ok (Hex.bigEndian v.units.toNat) ∧
    ∀ w : TokenAmount, v.toHex = w.toHex ↔ v.units = w.units := by
  refine ⟨⟨fun none => ?_, fun c member => ?_, ?_, ?_⟩, v.ofText_toHex,
    ⟨ofHex_toHex known, ofHex_marked_toHex known⟩, ?_, fun w => ⟨fun same => ?_, fun same => ?_⟩⟩
  · have digits : Hex.ofNat v.units.toNat = [] := by
      rw [← String.toList_ofList (l := Hex.ofNat v.units.toNat), ← toHex, none]
      rfl
    exact Hex.ofNat_ne_nil _ digits
  · rw [toHex_eq, String.toList_ofList] at member
    exact Hex.mem_lowerDigits_of_mem_encode member
  · rw [toHex_eq, ← String.length_toList, String.toList_ofList, Hex.length_encode]
    exact Nat.mul_mod_right 2 _
  · have bytes : v.units.toNat < 256 ^ 32 := Nat.lt_of_lt_of_eq v.units.isLt (by decide)
    rw [toHex, ← String.length_toList, String.toList_ofList]
    exact Hex.length_ofNat_le (by decide) bytes
  · rw [toHex_eq, Term.bytes_encode]
  · have read : Amount.ofText 16 v.toHex = .ok w.units := same ▸ w.ofText_toHex
    exact Except.ok.inj (v.ofText_toHex.symm.trans read)
  · rw [toHex, toHex, same]

/-- Two thousand units, whose digits are odd in number, and none at all. -/
theorem toHex_faithful_of_odd :
    let decimals : Decimals := fun token => if token = "T" then some 3 else none
    let two := of ⟨2000, by decide⟩ 3 "T"
    decimals "T" = some 3 ∧ two.toHex = "07d0" ∧ ofHex decimals "T" "0x07d0" = .ok two ∧
      Term.bytes "07d0" = .ok [7, 208] ∧ "07d0" ≠ (zero "T").toHex := by
  intro decimals two
  have known : decimals "T" = some 3 := rfl
  have digits : two.toHex = "07d0" := by decide
  obtain ⟨-, -, ⟨-, marked⟩, bytes, apart⟩ := toHex_faithful two known
  rw [digits] at marked bytes apart
  refine ⟨known, digits, marked, bytes.trans ?_, fun same => ?_⟩
  · change Except.ok (Hex.bigEndian 2000) = _
    rw [Hex.bigEndian_of_le (by decide), Hex.bigEndian_of_lt (by decide)]
    rfl
  · exact absurd ((apart _).mp same) (by decide)

end TokenAmount
end ChainActivity
