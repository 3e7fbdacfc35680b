import ChainActivity.Text.Utf8

/-!
# Base64

Payloads travel as base64 text in the standard alphabet.  Reading is strict:
padding has to be there, and the bits that padding leaves over have to be zero,
so that each byte sequence has one written form.

## Main definitions

* `Base64.encode` — the written form of bytes.
* `Base64.decode` — the bytes of a written form, or the `Base64.Fault` that is
  reported first.
* `Base64.Fault.message` — the wording of a fault.

## Design notes

A text is cut into groups of four symbols.  Only the last group may hold padding
or be incomplete; it is read by `decodeLast`, all others by `decodeGroup`.  A
symbol outside the alphabet is reported before any fault of length or padding
that the last group has, with one exception: a single stray symbol at the end is
looked at before everything else.
-/

namespace ChainActivity.Base64

/-- Why a text is not the written form of bytes. -/
inductive Fault where
  /-- A byte that may not stand where it stands. -/
  | invalidSymbol (byte : UInt8) (offset : Nat)
  /-- The last group is too short to carry a byte. -/
  | invalidLength (length : Nat)
  /-- The last group is not filled up with padding. -/
  | invalidPadding
  /-- The last symbol carries bits that belong to no byte. -/
  | invalidLastSymbol (byte : UInt8) (offset : Nat)
  deriving DecidableEq, Repr

/-- The wording of a fault. -/
def Fault.message : Fault → String
  | .invalidSymbol byte offset =>
    "Invalid symbol " ++ toString byte.toNat ++ ", offset " ++ toString offset ++ "."
  | .invalidLength length => "Invalid input length: " ++ toString length
  | .invalidPadding => "Invalid padding"
  | .invalidLastSymbol byte offset =>
    "Invalid last symbol " ++ toString byte.toNat ++ ", offset " ++ toString offset ++ "."

/-- The padding symbol, an equals sign. -/
def pad : UInt8 := 61

/-- The six bits that a symbol stands for. -/
def sextet? (b : UInt8) : Option Nat :=
  let n := b.toNat
  if 65 ≤ n ∧ n ≤ 90 then some (n - 65)
  else if 97 ≤ n ∧ n ≤ 122 then some (n - 71)
  else if 48 ≤ n ∧ n ≤ 57 then some (n + 4)
  else if n = 43 then some 62
  else if n = 47 then some 63
  else none

/-- The symbol of six bits. -/
def symbol (n : Nat) : Char :=
  if n < 26 then Char.ofNat (n + 65)
  else if n < 52 then Char.ofNat (n + 71)
  else if n < 62 then Char.ofNat (n - 4)
  else if n = 62 then '+'
  else '/'

/-! ### Writing -/

/-- The written form of bytes, three to a group of four symbols. -/
def encode : List UInt8 → List Char
  | [] => []
  | [a] => [symbol (a.toNat / 4), symbol (a.toNat % 4 * 16), '=', '=']
  | [a, b] =>
    [symbol (a.toNat / 4), symbol (a.toNat % 4 * 16 + b.toNat / 16),
      symbol (b.toNat % 16 * 4), '=']
  | a :: b :: c :: rest =>
    symbol (a.toNat / 4) :: symbol (a.toNat % 4 * 16 + b.toNat / 16) ::
      symbol (b.toNat % 16 * 4 + c.toNat / 64) :: symbol (c.toNat % 64) :: encode rest

/-! ### Reading -/

/-- The six bits of the symbol at `offset`. -/
def sextetAt (b : UInt8) (offset : Nat) : Except Fault Nat :=
  match sextet? b with
  | some n => .ok n
  | none => .error (.invalidSymbol b offset)

/-- The bytes of a group, from the bits of its symbols; leftover bits are dropped. -/
def bytesOf : List Nat → List UInt8
  | [p, q] => [UInt8.ofNat (p * 4 + q / 16)]
  | [p, q, r] => [UInt8.ofNat (p * 4 + q / 16), UInt8.ofNat (q % 16 * 16 + r / 4)]
  | [p, q, r, s] =>
    [UInt8.ofNat (p * 4 + q / 16), UInt8.ofNat (q % 16 * 16 + r / 4), UInt8.ofNat (r % 4 * 64 + s)]
  | _ => []

/-- The bits of the last symbol that belong to no byte. -/
def leftover : List Nat → Nat
  | [_, q] => q % 16
  | [_, _, r] => r % 4
  | _ => 0

/-- The symbols of the last group before its padding, from the given position of
the group on.  Padding may not start before the third position, and once it has
started nothing else may follow. -/
def lastSymbols (offset : Nat) : Nat → List UInt8 → Except Fault (List Nat)
  | _, [] => .ok []
  | position, b :: rest =>
    if b = pad then
      if position < 2 ∨ rest.any (· ≠ pad) then .error (.invalidSymbol pad (offset + position))
      else .ok []
    else do
      let n ← sextetAt b (offset + position)
      let ns ← lastSymbols offset (position + 1) rest
      .ok (n :: ns)

/-- The bytes of the last group, which starts at `offset`. -/
def decodeLast (offset : Nat) (group : List UInt8) : Except Fault (List UInt8) := do
  let symbols ← lastSymbols offset 0 group
  if group.isEmpty then .ok []
  else if symbols.length < 2 then .error (.invalidLength (offset + symbols.length))
  else if group.length % 4 ≠ 0 then .error .invalidPadding
  else if leftover symbols ≠ 0 then
    .error (.invalidLastSymbol (group.getD (symbols.length - 1) 0) (offset + symbols.length - 1))
  else .ok (bytesOf symbols)

/-- The bytes of a full group that is not the last. -/
def decodeGroup (offset : Nat) (a b c d : UInt8) : Except Fault (List UInt8) := do
  let p ← sextetAt a offset
  let q ← sextetAt b (offset + 1)
  let r ← sextetAt c (offset + 2)
  let s ← sextetAt d (offset + 3)
  .ok (bytesOf [p, q, r, s])

/-- The bytes of the groups from `offset` on. -/
def decodeFrom (offset : Nat) : List UInt8 → Except Fault (List UInt8)
  | a :: b :: c :: d :: rest =>
    if rest.isEmpty then decodeLast offset [a, b, c, d]
    else do
      let group ← decodeGroup offset a b c d
      let bytes ← decodeFrom (offset + 4) rest
      .ok (group ++ bytes)
  | group => decodeLast offset group

/-- A single symbol after the last full group, when it is neither padding nor in
the alphabet. -/
def strayEnd? (text : List UInt8) : Option UInt8 :=
  if text.length % 4 = 1 then
    text.getLast?.filter fun b => b ≠ pad ∧ (sextet? b).isNone
  else none

/-- The bytes of a written form. -/
def decode (text : List UInt8) : Except Fault (List UInt8) :=
  match strayEnd? text with
  | some b => .error (.invalidSymbol b (text.length - 1))
  | none => decodeFrom 0 text

@[simp] theorem encode_nil : encode [] = [] := rfl

private theorem sextet?_symbol_below :
    ∀ n ∈ List.range 64, sextet? (UInt8.ofNat (symbol n).toNat) = some n := by decide

/-- A written symbol stands for the bits it was written from. -/
theorem sextet?_symbol {n : Nat} (h : n < 64) :
    sextet? (UInt8.ofNat (symbol n).toNat) = some n :=
  sextet?_symbol_below n (List.mem_range.mpr h)

end ChainActivity.Base64
