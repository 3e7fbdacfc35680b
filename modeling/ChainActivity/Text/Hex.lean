import ChainActivity.Text.Utf8

/-!
# Hexadecimal text

Terms of a call carry bytes and numbers as hexadecimal digits.  Writing uses
lower-case digits; reading takes either case and reports the first fault.

## Main definitions

* `Hex.digitValue?`, `Hex.digitChar` — one digit.
* `Hex.encode` — bytes as lower-case digits, two for each byte.
* `Hex.decode` — the bytes that digits denote, or the first `Hex.Fault`.
* `Hex.ofNat` — a number in the fewest whole bytes, most significant first.
* `Hex.withoutMark` — a text without the mark `0x` that some writers put in front.
* `Hex.Fault.message` — the wording of a fault.

## Design notes

An odd number of digits is reported before any single digit is looked at, and it
is counted in bytes of the text.  A digit that is not hexadecimal is reported by
its position and by the first byte of its encoding: every character before it is
a digit and takes one byte, so that its position in characters is its position
in bytes.
-/

namespace ChainActivity.Hex

/-- Why a text denotes no bytes. -/
inductive Fault where
  /-- The text does not hold two digits for each byte. -/
  | oddLength
  /-- A byte of the text that is not a digit, with its position. -/
  | invalidDigit (byte : UInt8) (position : Nat)
  deriving DecidableEq, Repr

/-- The digits behind the mark `0x`; the whole text if the mark is not there. -/
def withoutMark (text : String) : String :=
  match text.toList with
  | '0' :: 'x' :: digits => String.ofList digits
  | _ => text

/-- A byte as the character of the same number, in quotes.  Characters that do not
show are given by a short escape or by their number. -/
def quotedByte (b : UInt8) : String :=
  let c := Char.ofNat b.toNat
  let body :=
    if c = '\x00' then "\\0"
    else if c = '\t' then "\\t"
    else if c = '\n' then "\\n"
    else if c = '\r' then "\\r"
    else if c = '\'' then "\\'"
    else if c = '\\' then "\\\\"
    else if b < 0x20 ∨ (0x7f ≤ b ∧ b ≤ 0xa0) ∨ b = 0xad then
      "\\u\x7b" ++ String.ofList (Nat.toDigits 16 b.toNat) ++ "\x7d"
    else c.toString
  "'" ++ body ++ "'"

/-- The wording of a fault. -/
def Fault.message : Fault → String
  | .oddLength => "Odd number of digits"
  | .invalidDigit byte position =>
    "Invalid character " ++ quotedByte byte ++ " at position " ++ toString position

/-- The value of a digit of either case. -/
def digitValue? (c : Char) : Option Nat :=
  if '0' ≤ c ∧ c ≤ '9' then some (c.toNat - '0'.toNat)
  else if 'a' ≤ c ∧ c ≤ 'f' then some (c.toNat - 'a'.toNat + 10)
  else if 'A' ≤ c ∧ c ≤ 'F' then some (c.toNat - 'A'.toNat + 10)
  else none

/-- The lower-case digit of a value below sixteen. -/
def digitChar (n : Nat) : Char :=
  Nat.digitChar n

/-- Whether a character is a digit of either case. -/
def isDigit (c : Char) : Bool :=
  (digitValue? c).isSome

/-! ### Bytes -/

/-- Two lower-case digits for each byte. -/
def encode : List UInt8 → List Char
  | [] => []
  | b :: bytes => digitChar (b.toNat / 16) :: digitChar (b.toNat % 16) :: encode bytes

/-- The value of the character at `position`, or the fault that it is no digit. -/
def nibble (c : Char) (position : Nat) : Except Fault Nat :=
  match digitValue? c with
  | some n => .ok n
  | none => .error (.invalidDigit ((String.utf8EncodeChar c).headD 0) position)

/-- The bytes of a list of digits that starts at `position` of the whole text. -/
def decodeFrom (position : Nat) : List Char → Except Fault (List UInt8)
  | [] => .ok []
  | [c] => do
    let _ ← nibble c position
    .error .oddLength
  | c :: d :: rest => do
    let high ← nibble c position
    let low ← nibble d (position + 1)
    let bytes ← decodeFrom (position + 2) rest
    .ok (UInt8.ofNat (high * 16 + low) :: bytes)

/-- The bytes that a text denotes.  The number of digits is checked first. -/
def decode (cs : List Char) : Except Fault (List UInt8) :=
  if Utf8.size cs % 2 = 1 then .error .oddLength else decodeFrom 0 cs

/-- The digits of a number in the fewest whole bytes: a leading zero digit makes
their number even. -/
def ofNat (n : Nat) : List Char :=
  let digits := Nat.toDigits 16 n
  if digits.length % 2 = 1 then '0' :: digits else digits

@[simp] theorem encode_nil : encode [] = [] := rfl

@[simp] theorem encode_cons (b : UInt8) (bytes : List UInt8) :
    encode (b :: bytes) =
      digitChar (b.toNat / 16) :: digitChar (b.toNat % 16) :: encode bytes := rfl

/-- Two digits for each byte. -/
@[simp] theorem length_encode (bytes : List UInt8) :
    (encode bytes).length = 2 * bytes.length := by
  induction bytes with
  | nil => rfl
  | cons b bytes ih => simp only [encode_cons, List.length_cons, ih]; omega

private theorem digitValue?_digitChar_below :
    ∀ n ∈ List.range 16, digitValue? (digitChar n) = some n := by decide

/-- A written digit reads back as its value. -/
theorem digitValue?_digitChar {n : Nat} (h : n < 16) : digitValue? (digitChar n) = some n :=
  digitValue?_digitChar_below n (List.mem_range.mpr h)

private theorem utf8Size_digitChar_below :
    ∀ n ∈ List.range 16, (digitChar n).utf8Size = 1 := by decide

/-- A digit takes one byte. -/
theorem utf8Size_digitChar {n : Nat} (h : n < 16) : (digitChar n).utf8Size = 1 :=
  utf8Size_digitChar_below n (List.mem_range.mpr h)

/-- The encoding is as many bytes long as it has digits. -/
theorem size_encode (bytes : List UInt8) : Utf8.size (encode bytes) = 2 * bytes.length := by
  induction bytes with
  | nil => rfl
  | cons b bytes ih =>
    have hb : b.toNat < 256 := b.toNat_lt
    simp only [encode_cons, Utf8.size_cons, ih, List.length_cons,
      utf8Size_digitChar (show b.toNat / 16 < 16 by omega),
      utf8Size_digitChar (show b.toNat % 16 < 16 by omega)]
    omega

/-- Reading written digits gives the bytes back, wherever the text starts. -/
theorem decodeFrom_encode (position : Nat) (bytes : List UInt8) :
    decodeFrom position (encode bytes) = .ok bytes := by
  induction bytes generalizing position with
  | nil => rfl
  | cons b bytes ih =>
    have hb : b.toNat < 256 := b.toNat_lt
    simp [decodeFrom, nibble, ih, bind, Except.bind,
      digitValue?_digitChar (show b.toNat / 16 < 16 by omega),
      digitValue?_digitChar (show b.toNat % 16 < 16 by omega),
      show b.toNat / 16 * 16 + b.toNat % 16 = b.toNat by omega]

/-- Reading written digits gives the bytes back. -/
@[simp] theorem decode_encode (bytes : List UInt8) : decode (encode bytes) = .ok bytes := by
  have even : ¬ Utf8.size (encode bytes) % 2 = 1 := by rw [size_encode]; omega
  rw [decode, if_neg even, decodeFrom_encode]

end ChainActivity.Hex
