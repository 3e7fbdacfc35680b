import ChainActivity.Decimal.Binary64

/-!
# Shortest decimals of doubles

The decimal text of a double uses the fewest digits that read back as the same
double, and of those the digits nearest to it.  Two decimals may be equally near; which
of them is taken is left to whoever asks.

## Main definitions

* `Decimal` — a whole number of units, the unit being a power of ten.
* `Tie` — which of two decimals is taken that are equally near.
* `Decimal.shortest` — the shortest decimal in the neighbourhood of a double.

## Design notes

For one digit, two digits, … the grid of decimals with that many digits is
looked at.  If any point of a grid lies in the neighbourhood, then so does one of
the two points next to the double itself, so only these two are tested.  Should
none of the grids up to seventeen digits have a hit, the exact value of the
double, which is a finite decimal, is the answer; the result is in the
neighbourhood either way.
-/

namespace ChainActivity

/-- The number `significand · 10 ^ exponent`. -/
structure Decimal where
  significand : Nat
  exponent : Int
  deriving DecidableEq, Repr

/-- Which of two neighbours on a grid is taken if both are equally near. -/
inductive Tie where
  /-- The larger one. -/
  | up
  /-- The one whose last digit is even. -/
  | even
  deriving DecidableEq, Repr

/-- The number that is taken of `below` and `below + 1`. -/
def Tie.pick (tie : Tie) (below : Nat) : Nat :=
  match tie with
  | .up => below + 1
  | .even => if below % 2 = 0 then below else below + 1

namespace Decimal

/-- The number of decimal digits of a number. -/
def digitCount (n : Nat) : Nat :=
  (Nat.toDigits 10 n).length

/-- The power of ten of the leading digit of `mantissa · 2 ^ exponent`. -/
def magnitude (mantissa : Nat) (exponent : Int) : Int :=
  let numerator := mantissa <<< exponent.toNat
  let denominator := 1 <<< (-exponent).toNat
  if denominator ≤ numerator then (digitCount (numerator / denominator) : Int) - 1
  else -(digitCount ((denominator - 1) / numerator) : Int)

/-- The largest multiple of `10 ^ e` that is at most `n · 2 ^ u`, in units of
`10 ^ e`. -/
def floorAt (n : Nat) (u e : Int) : Nat :=
  ((n * Nat.pow 10 (-e).toNat) <<< u.toNat) / (Nat.pow 10 e.toNat <<< (-u).toNat)

/-- The point of the grid of multiples of `10 ^ e` that stands for a
neighbourhood: of the two points next to the value the one that lies in it, and
the nearer one if both do. -/
def gridPoint? (tie : Tie) (nb : Binary64.Neighbourhood) (e : Int) : Option Decimal :=
  let below := floorAt nb.value nb.unit e
  let above := below + 1
  match nb.contains below e && below ≠ 0, nb.contains above e with
  | true, true =>
    -- the sum of the two points against twice the value
    match Binary64.compareDecimal (below + above) e (2 * nb.value) nb.unit with
    | .lt => some ⟨above, e⟩
    | .eq => some ⟨tie.pick below, e⟩
    | .gt => some ⟨below, e⟩
  | true, false => some ⟨below, e⟩
  | false, true => some ⟨above, e⟩
  | false, false => none

/-- The first hit on the grids from `10 ^ e` down, at most `count` of them. -/
def search (tie : Tie) (nb : Binary64.Neighbourhood) : (count : Nat) → (e : Int) → Option Decimal
  | 0, _ => none
  | count + 1, e =>
    match gridPoint? tie nb e with
    | some d => some d
    | none => search tie nb count (e - 1)

/-- The exact value of `mantissa · 2 ^ exponent`. -/
def exact (mantissa : Nat) (exponent : Int) : Decimal :=
  if 0 ≤ exponent then ⟨mantissa <<< exponent.toNat, 0⟩
  else ⟨mantissa * Nat.pow 5 (-exponent).toNat, exponent⟩

/-- The shortest decimal of the positive double `mantissa · 2 ^ exponent`. -/
def shortest (tie : Tie) (mantissa : Nat) (exponent : Int) : Decimal :=
  (search tie (Binary64.quarters mantissa exponent) 17 (magnitude mantissa exponent)).getD
    (exact mantissa exponent)

/-- Digits without the zeros at their end, each counted into the exponent. -/
def stripZeros (digits : List Char) (exponent : Int) : List Char × Int :=
  let zeros := (digits.reverse.takeWhile (· = '0')).length
  (digits.take (digits.length - zeros), exponent + zeros)

/-- The significant digits of a positive decimal and the power of ten of the
first of them. -/
def digits (d : Decimal) : List Char × Int :=
  let (ds, e) := stripZeros (Nat.toDigits 10 d.significand) d.exponent
  (ds, e + ds.length - 1)

end Decimal

end ChainActivity
