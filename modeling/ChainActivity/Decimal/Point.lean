import ChainActivity.Decimal.Layout

/-!
# Moving the decimal point

Between a whole number of smallest units and the number that a reader sees lies a
power of ten.  One direction divides in doubles, for display only; the other moves
the point within decimal digits and is exact.

## Main definitions

* `Decimal.powerOfTen` — a power of ten by repeated squaring.
* `Decimal.scale` — a number of units as a double.
* `Decimal.shiftPoint` — a decimal text times a power of ten, cut to a whole number.
-/

namespace ChainActivity.Decimal

/-- `result · base ^ exponent` by repeated squaring: each round uses up the lowest
bit of the exponent. -/
def powerFrom : (rounds exponent : Nat) → (result base : Float) → Float
  | 0, _, result, _ => result
  | rounds + 1, exponent, result, base =>
    let result := if exponent % 2 = 1 then result * base else result
    if exponent / 2 = 0 then result
    else powerFrom rounds (exponent / 2) result (base * base)

/-- The power of ten with this exponent, which has at most thirty-two bits. -/
def powerOfTen (exponent : Nat) : Float :=
  powerFrom 32 exponent 1 10

/-- The largest exponent that is used for scaling. -/
def maxExponent : Nat := (1 <<< 31) - 1

/-- A number of units divided by the power of ten that makes one whole; zero if the
division has no finite result. -/
def scale (units : Nat) (decimals : UInt32) : Float :=
  let quotient := Float.ofNat units / powerOfTen (min decimals.toNat maxExponent)
  if quotient.isFinite then quotient else 0

/-- Digits without the zeros in front; a single zero if no other digit is left. -/
def trimZeros (ds : List Char) : List Char :=
  match ds.dropWhile (· = '0') with
  | [] => ['0']
  | rest => rest

/-- A decimal text with its point moved to the right by some places, and what is
still behind the point cut off. -/
def shiftPoint (text : List Char) (places : Nat) : List Char :=
  let whole := text.takeWhile (· ≠ '.')
  let fraction := (text.dropWhile (· ≠ '.')).drop 1
  trimZeros (whole ++ fraction.take places ++ List.replicate (places - fraction.length) '0')

end ChainActivity.Decimal
