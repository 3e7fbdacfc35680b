/-!
# Bech32

The checked text form of chain addresses: a human-readable part, the separator
`1`, the key in groups of five bits, and six symbols that check the rest.

## Main definitions

* `Bech32.encode` — the text form of bytes under a human-readable part.
* `Bech32.checksum` — the six check symbols, as the remainder of a polynomial
  over the field of thirty-two elements.
* `Bech32.regroup` — bytes as groups of five bits, the last filled up with zeros.
-/

namespace ChainActivity.Bech32

/-- The symbols of the thirty-two values. -/
def alphabet : List Char :=
  "qpzry9x8gf2tvdw0s3jn54khce6mua7l".toList

/-- The symbol of a group of five bits. -/
def symbol (n : Nat) : Char :=
  alphabet.getD n 'q'

/-! ### Checksum -/

/-- The five words that the top five bits of the remainder select. -/
def generators : List Nat :=
  [0x3b6a57b2, 0x26508e6d, 0x1ea119fa, 0x3d4233dd, 0x2a1462b3]

/-- The remainder after one more group of five bits. -/
def absorb (remainder group : Nat) : Nat :=
  let top := remainder >>> 25
  let shifted := ((remainder &&& 0x1ffffff) <<< 5) ^^^ group
  generators.zipIdx.foldl
    (fun r generator => if top.testBit generator.2 then r ^^^ generator.1 else r) shifted

/-- The remainder of a sequence of groups. -/
def remainder (groups : List Nat) : Nat :=
  groups.foldl absorb 1

/-- The human-readable part as groups: the high bits of each character, a zero,
and the low bits of each character. -/
def expand (hrp : List Char) : List Nat :=
  hrp.map (fun c => c.toNat >>> 5) ++ 0 :: hrp.map (fun c => c.toNat &&& 31)

/-- The six groups that make the remainder of the whole equal to one. -/
def checksum (hrp : List Char) (groups : List Nat) : List Nat :=
  let r := remainder (expand hrp ++ groups ++ List.replicate 6 0) ^^^ 1
  [25, 20, 15, 10, 5, 0].map fun shift => (r >>> shift) &&& 31

/-! ### Groups of five bits -/

/-- The eight bits of a byte, the most significant first. -/
def bits (b : UInt8) : List Bool :=
  [7, 6, 5, 4, 3, 2, 1, 0].map fun i => b.toNat.testBit i

/-- The number that bits denote, the most significant first. -/
def ofBits (bs : List Bool) : Nat :=
  bs.foldl (fun n b => 2 * n + b.toNat) 0

/-- Bits in groups of five; the last group is filled up with zeros. -/
def groupBits : List Bool → List Nat
  | [] => []
  | [a] => [ofBits [a, false, false, false, false]]
  | [a, b] => [ofBits [a, b, false, false, false]]
  | [a, b, c] => [ofBits [a, b, c, false, false]]
  | [a, b, c, d] => [ofBits [a, b, c, d, false]]
  | a :: b :: c :: d :: e :: rest => ofBits [a, b, c, d, e] :: groupBits rest

/-- Bytes as groups of five bits. -/
def regroup (bytes : List UInt8) : List Nat :=
  groupBits (bytes.flatMap bits)

/-- The text form of bytes under a human-readable part. -/
def encode (hrp : List Char) (bytes : List UInt8) : List Char :=
  let groups := regroup bytes
  hrp ++ '1' :: (groups ++ checksum hrp groups).map symbol

end ChainActivity.Bech32
