import ChainActivity.Decimal.Shortest

/-!
# Decimal text

How the significant digits of a double are laid out as text.  The digits come
from `Decimal.shortest`; a `Layout` decides where the exponent form starts,
whether a whole number keeps a fraction digit, and which way ties go.

## Main definitions

* `Layout` — the decisions of one text format.
* `Layout.plain` — never an exponent, no fraction digit on whole numbers.
* `Layout.json` — exponents below `-5` and from `16` on are written out, and a
  whole number keeps one fraction digit.
* `Layout.render` — the text of a double.
-/

namespace ChainActivity

/-- The decisions of one text format for doubles. -/
structure Layout where
  /-- Whether a number whose first digit stands at this power of ten is written
  without an exponent. -/
  isPositional : Int → Bool
  /-- Whether a whole number keeps one fraction digit. -/
  keepsFraction : Bool
  /-- Which of two decimals that are equally near is taken. -/
  tie : Tie

namespace Layout

/-- Numbers for a reader: never an exponent, and ties go up. -/
def plain : Layout where
  isPositional _ := true
  keepsFraction := false
  tie := .up

/-- Numbers in JSON: positional from `10 ^ (-5)` to below `10 ^ 16`, and ties go to the
even digit. -/
def json : Layout where
  isPositional power := -5 ≤ power ∧ power < 16
  keepsFraction := true
  tie := .even

/-- Digits with a point, the first of them standing at `10 ^ power`. -/
def positional (layout : Layout) (ds : List Char) (power : Int) : List Char :=
  if power < 0 then
    '0' :: '.' :: (List.replicate (-power - 1).toNat '0' ++ ds)
  else
    let wholeLength := power.toNat + 1
    let fraction := ds.drop wholeLength
    let whole := ds.take wholeLength ++ List.replicate (wholeLength - ds.length) '0'
    if fraction.isEmpty then
      if layout.keepsFraction then whole ++ ['.', '0'] else whole
    else whole ++ '.' :: fraction

/-- Digits in exponent form: a point after the first digit, and the sign of the
exponent always written. -/
def scientific (ds : List Char) (power : Int) : List Char :=
  let mantissa := match ds with
    | d :: e :: rest => d :: '.' :: e :: rest
    | short => short
  let sign := if power < 0 then '-' else '+'
  mantissa ++ 'e' :: sign :: Nat.toDigits 10 power.natAbs

/-- The text of a positive decimal. -/
def renderDecimal (layout : Layout) (d : Decimal) : List Char :=
  let (ds, power) := d.digits
  if layout.isPositional power then layout.positional ds power else scientific ds power

/-- The text of a double. -/
def render (layout : Layout) (x : Float) : List Char :=
  match Binary64.ofFloat x with
  | .notANumber => "NaN".toList
  | .infinite negative => if negative then "-inf".toList else "inf".toList
  | .finite negative mantissa exponent =>
    let magnitude :=
      if mantissa = 0 then layout.positional ['0'] 0
      else layout.renderDecimal (Decimal.shortest layout.tie mantissa exponent)
    if negative then '-' :: magnitude else magnitude

end Layout

end ChainActivity
