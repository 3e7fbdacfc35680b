/-!
# Numbers in JSON

A JSON number is a numeral: digits, perhaps a fraction, perhaps an exponent.  A
numeral without fraction and exponent is a whole number as long as it fits into
sixty-four bits; every other numeral is a double.

## Main definitions

* `Json.Number` — a number by the way in which it is stored.
* `Json.Numeral` — the parts of a numeral, as they are written.
* `Json.Numeral.ofLexeme?` — the grammar of numerals.
* `Json.Numeral.value?` — the number that a numeral stands for; `none` beyond the
  range of doubles.

## Design notes

A double is put together from a significand of sixty-four bits and a power of ten.
Digits that no longer fit the significand are dropped: those of the whole part
still count into the exponent, those of the fraction do not.  The significand is
rounded to a double first and multiplied or divided once, so that the result may
be the neighbour of the double nearest to the numeral.
-/

namespace ChainActivity.Json

/-- A number by the way in which it is stored. -/
inductive Number where
  /-- A whole number from `0` on. -/
  | natural (value : UInt64)
  /-- A whole number below `0`, by its size; at most `2 ^ 63`. -/
  | negative (size : UInt64)
  /-- A double. -/
  | real (value : Float)
  deriving Repr

/-- A numeral by its parts. -/
structure Numeral where
  /-- Whether a minus sign stands in front. -/
  negative : Bool
  /-- The digits before the point. -/
  whole : List Char
  /-- The digits after the point, if there is one. -/
  fraction : Option (List Char)
  /-- The exponent, if there is one: whether it is negative, and its digits. -/
  exponent : Option (Bool × List Char)
  deriving DecidableEq, Repr

namespace Numeral

/-! ### Grammar -/

/-- The digits at the start of a text, at least one, and the rest. -/
def digits? (cs : List Char) : Option (List Char × List Char) :=
  match cs.takeWhile Char.isDigit with
  | [] => none
  | ds => some (ds, cs.dropWhile Char.isDigit)

/-- An optional minus sign and the rest. -/
def minus (cs : List Char) : Bool × List Char :=
  match cs with
  | '-' :: rest => (true, rest)
  | _ => (false, cs)

/-- The whole part and the rest.  A zero is not followed by another digit. -/
def whole? (cs : List Char) : Option (List Char × List Char) :=
  match digits? cs with
  | some ('0' :: _ :: _, _) => none
  | found => found

/-- A fraction, if a point follows, and the rest. -/
def fraction? (cs : List Char) : Option (Option (List Char) × List Char) :=
  match cs with
  | '.' :: rest => (digits? rest).map fun (ds, rest) => (some ds, rest)
  | _ => some (none, cs)

/-- The sign of an exponent and the rest. -/
def exponentSign (cs : List Char) : Bool × List Char :=
  match cs with
  | '-' :: rest => (true, rest)
  | '+' :: rest => (false, rest)
  | _ => (false, cs)

/-- An exponent, if its mark follows, and the rest. -/
def exponent? (cs : List Char) : Option (Option (Bool × List Char) × List Char) :=
  match cs with
  | c :: rest =>
    if c = 'e' ∨ c = 'E' then
      let (negative, rest) := exponentSign rest
      (digits? rest).map fun (ds, rest) => (some (negative, ds), rest)
    else some (none, cs)
  | [] => some (none, [])

/-- The parts of a whole text that is a numeral. -/
def ofLexeme? (cs : List Char) : Option Numeral := do
  let (negative, cs) := minus cs
  let (whole, cs) ← whole? cs
  let (fraction, cs) ← fraction? cs
  let (exponent, cs) ← exponent? cs
  if cs.isEmpty then some ⟨negative, whole, fraction, exponent⟩ else none

/-! ### Value -/

/-- The value of one decimal digit. -/
def digitValue (c : Char) : Nat :=
  c.toNat - '0'.toNat

/-- The number that decimal digits denote. -/
def natValue (ds : List Char) : Nat :=
  ds.foldl (fun n d => 10 * n + digitValue d) 0

/-- Appends digits to a significand as long as it stays below `2 ^ 64`, and counts
the digits that are left. -/
def absorb (significand : Nat) : List Char → Nat × Nat
  | [] => (significand, 0)
  | d :: ds =>
    let next := 10 * significand + digitValue d
    if next < UInt64.size then absorb next ds else (significand, ds.length + 1)

/-- The double nearest to `10 ^ n`. -/
def powerOfTen (n : Nat) : Float :=
  Float.ofScientific 1 false n

/-- Divides by `10 ^ 308`, at most as often as asked for, and stops at zero. -/
def divideByLargest : Nat → Float → Float
  | 0, x => x
  | n + 1, x => if x == 0 then x else divideByLargest n (x / powerOfTen 308)

/-- The double `significand · 10 ^ exponent`; `none` when it is too large. -/
def assemble? (significand : Nat) (exponent : Int) : Option Float :=
  let x := Float.ofNat significand
  if exponent < 0 then
    let size := exponent.natAbs
    -- the exponent left over after whole factors of `10 ^ 308`
    let hops := (size - 1) / 308
    some (divideByLargest hops x / powerOfTen (size - 308 * hops))
  else if exponent ≤ 308 then
    let y := x * powerOfTen exponent.toNat
    if y.isInf then none else some y
  else if significand = 0 then some x
  else none

/-- The exponent that is written in a numeral. -/
def writtenExponent (n : Numeral) : Int :=
  match n.exponent with
  | none => 0
  | some (true, ds) => -(natValue ds : Int)
  | some (false, ds) => natValue ds

/-- The double that a numeral stands for. -/
def real? (n : Numeral) : Option Float :=
  let fraction := n.fraction.getD []
  let (significand, droppedWhole) := absorb 0 n.whole
  let (significand, droppedFraction) := absorb significand fraction
  let exponent : Int := droppedWhole - (fraction.length - droppedFraction : Nat) + n.writtenExponent
  (assemble? significand exponent).map fun x => if n.negative then -x else x

/-- The number that a numeral stands for.  Minus zero, and a whole number that
does not fit, are doubles. -/
def value? (n : Numeral) : Option Number :=
  let size := natValue n.whole
  if n.fraction.isNone && n.exponent.isNone then
    if n.negative then
      if 1 ≤ size ∧ size ≤ (1 <<< 63) then some (.negative (UInt64.ofNat size))
      else n.real?.map .real
    else if size < UInt64.size then some (.natural (UInt64.ofNat size))
    else n.real?.map .real
  else n.real?.map .real

end Numeral

end ChainActivity.Json
