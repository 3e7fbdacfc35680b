/-!
# Double-precision numbers, decoded

A double is either not a number, an infinity, or a signed integer multiple of a
power of two.  `Binary64.ofFloat` reads this off the bits, so that everything
that is said about the decimal text of a double is said in exact arithmetic.

## Main definitions

* `Binary64` — the three classes of doubles.
* `Binary64.ofFloat` — the class of a `Float`, from its bits.
* `Binary64.quarters` — a finite double and the ends of the interval that rounds
  to it, as multiples of a quarter of its last place.
-/

namespace ChainActivity

/-- A double by class; a finite one is `mantissa · 2 ^ exponent`, up to its sign. -/
inductive Binary64 where
  | notANumber
  | infinite (negative : Bool)
  | finite (negative : Bool) (mantissa : Nat) (exponent : Int)
  deriving DecidableEq, Repr

namespace Binary64

/-- The class of the double with these sixty-four bits. -/
def ofBits (bits : Nat) : Binary64 :=
  let negative := decide ((1 <<< 63) ≤ bits)
  let biased : Nat := (bits >>> 52) % (1 <<< 11)
  let fraction : Nat := bits % (1 <<< 52)
  if biased = 2047 then
    if fraction = 0 then .infinite negative else .notANumber
  else if biased = 0 then .finite negative fraction (-1074)
  else .finite negative ((1 <<< 52) + fraction) ((biased : Int) - 1075)

/-- The class of a `Float`. -/
def ofFloat (x : Float) : Binary64 :=
  ofBits x.toBits.toNat

/-- The numbers that round to one finite double: its value and the two ends of
the interval around it, all as multiples of `2 ^ unit`. -/
structure Neighbourhood where
  /-- The lower end. -/
  low : Nat
  /-- The double itself. -/
  value : Nat
  /-- The upper end. -/
  high : Nat
  /-- The exponent of the common unit. -/
  unit : Int
  /-- Whether the ends belong to the interval. -/
  closed : Bool
  deriving DecidableEq, Repr

/-- The neighbourhood of `mantissa · 2 ^ exponent`.  Its ends lie half a place
away, and only a quarter of a place below a power of two, where the doubles get
denser.  The ends round to the even neighbour. -/
def quarters (mantissa : Nat) (exponent : Int) : Neighbourhood where
  low := if mantissa = (1 <<< 52) ∧ -1074 < exponent then 4 * mantissa - 1 else 4 * mantissa - 2
  value := 4 * mantissa
  high := 4 * mantissa + 2
  unit := exponent - 2
  closed := mantissa % 2 = 0

/-- The order of `c · 10 ^ e` and `n · 2 ^ u`, in whole numbers. -/
def compareDecimal (c : Nat) (e : Int) (n : Nat) (u : Int) : Ordering :=
  compare ((c * Nat.pow 10 e.toNat) <<< (-u).toNat) ((n * Nat.pow 10 (-e).toNat) <<< u.toNat)

/-- Whether `c · 10 ^ e` lies in a neighbourhood. -/
def Neighbourhood.contains (nb : Neighbourhood) (c : Nat) (e : Int) : Bool :=
  let low := compareDecimal c e nb.low nb.unit
  let high := compareDecimal c e nb.high nb.unit
  if nb.closed then low.isGE && high.isLE else low.isGT && high.isLT

end Binary64

end ChainActivity
