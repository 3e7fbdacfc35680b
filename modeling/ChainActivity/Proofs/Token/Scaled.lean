import ChainActivity.Proofs.Decimal.Point
import ChainActivity.Proofs.Decimal.Rounding
import ChainActivity.Proofs.Text.Digits
import ChainActivity.Token.Amount

/-!
# Amounts that a reader gives

An amount that is given as a double is brought to units through its decimal text.  If the text has
no sign, the units are the number that it shows times a power of ten, and what is below one unit is
cut off; nothing is rounded.  Whether they fit an amount is decided by their digits alone.

## Main statements

* `Layout.exists_finite_of_render` — a text that begins with a digit has no sign.
* `Amount.exists_ofText_toDigits`, `Amount.ofText_toDigits_of_lt` — the decimal digits of a number
  are read as long as there are at most sixty-four.
* `TokenAmount.ofScaled_of_shown` — the units of an amount that is shown with digits.
-/

namespace ChainActivity

open Json.Numeral (fractionText)

/-- A double whose text begins with a digit is finite and has no sign. -/
theorem Layout.exists_finite_of_render {layout : Layout} {x : Float} {c : Char} {cs : List Char}
    (shown : layout.render x = c :: cs) (digit : c.isDigit = true) :
    ∃ mantissa exponent, Binary64.ofFloat x = .finite false mantissa exponent := by
  have other {d : Char} {ds : List Char} (same : d :: ds = c :: cs) : d.isDigit = true := by
    rwa [(List.cons.inj same).1]
  rw [render] at shown
  split at shown
  · exact absurd (other shown) (by decide)
  · split at shown
    · exact absurd (other shown) (by decide)
    · exact absurd (other shown) (by decide)
  · next negative mantissa exponent found =>
    cases negative with
    | false => exact ⟨mantissa, exponent, found⟩
    | true => exact absurd (other shown) (by decide)

namespace Amount

/-- A number of at most sixty-four decimal digits is read from them. -/
theorem exists_ofText_toDigits {n : Nat} (short : (Nat.toDigits 10 n).length ≤ maxSize) :
    ∃ a : Amount, a.toNat = n ∧ ofText 10 (String.ofList (Nat.toDigits 10 n)) = .ok a := by
  have small : n < 10 ^ 64 := (Nat.length_toDigits_le_iff (by decide) (by decide)).mp short
  let a : Amount := ⟨n, small.trans (by decide)⟩
  exact ⟨a, rfl, (ofText_toDecimal a).trans (if_pos short)⟩

/-- More digits are too long a text, whatever they denote. -/
theorem ofText_toDigits_of_lt {n : Nat} (long : maxSize < (Nat.toDigits 10 n).length) :
    ofText 10 (String.ofList (Nat.toDigits 10 n)) = .error (.tooLong (Nat.toDigits 10 n).length) := by
  rw [ofText, utf8ByteSize_toDigits, if_pos long]

end Amount

namespace TokenAmount

section

variable {x : Float} {whole : List Char} {fraction : Option (List Char)}

/-- **The units of an amount that is shown with digits** are the number that the digits denote
times a power of ten, cut down to a whole one.  They are read exactly if they have at most
sixty-four digits. -/
theorem ofScaled_of_shown {decimals : Decimals} {token : String} {places : UInt32}
    (shown : Layout.plain.render x = whole ++ fractionText fraction) (present : whole ≠ [])
    (digits : ∀ c ∈ whole ++ fraction.getD [], c.isDigit = true)
    (known : decimals token = some places) :
    let units := ⌊Decimal.ofDigits whole (fraction.getD []) * 10 ^ places.toNat⌋₊
    Decimal.shiftPoint (Layout.plain.render x) places.toNat = Nat.toDigits 10 units ∧
    ((Nat.toDigits 10 units).length ≤ 64 →
      ∃ raw : Amount, raw.toNat = units ∧ ofScaled decimals token x = .ok (of raw places token)) ∧
    (64 < (Nat.toDigits 10 units).length → ofScaled decimals token x =
      .error (.amount (.tooLong (Nat.toDigits 10 units).length))) := by
  intro units
  have moved : Decimal.shiftPoint (Layout.plain.render x) places.toNat = Nat.toDigits 10 units := by
    rw [shown]
    exact Decimal.shiftPoint_eq_toDigits digits places.toNat
  have admitted : (x.isFinite && !decide (x < 0)) = true := by
    obtain ⟨c, cs, rfl⟩ := List.exists_cons_of_ne_nil present
    obtain ⟨mantissa, exponent, found⟩ :=
      Layout.exists_finite_of_render shown (digits c List.mem_cons_self)
    obtain ⟨finite, natural⟩ := Rounding.isFinite_and_not_lt_zero found
    rw [finite, decide_eq_false natural]
    rfl
  refine ⟨moved, fun short => ?_, fun long => ?_⟩
  · obtain ⟨raw, same, read⟩ := Amount.exists_ofText_toDigits short
    refine ⟨raw, same, ?_⟩
    rw [ofScaled, if_pos admitted, known]
    simp only [moved, read]
  · have read := Amount.ofText_toDigits_of_lt long
    rw [ofScaled, if_pos admitted, known]
    simp only [moved, read]

end

/-- A number with seven digits behind the point, of a token with six places and of one with so many
that the units have a digit too much. -/
theorem ofScaled_of_shown_of_seven_digits :
    let decimals : Decimals := fun token =>
      if token = "USDC-c76f1f" then some 6 else if token = "BIG-1" then some 64 else none
    Layout.plain.render 1.2345678 =
        ['1'] ++ fractionText (some ['2', '3', '4', '5', '6', '7', '8']) ∧
      ofScaled decimals "USDC-c76f1f" 1.2345678 =
        .ok (of ⟨1234567, by decide⟩ 6 "USDC-c76f1f") ∧
      ofScaled decimals "BIG-1" 1.2345678 = .error (.amount (.tooLong 65)) := by
  intro decimals
  have shown : Layout.plain.render 1.2345678 =
      ['1'] ++ fractionText (some ['2', '3', '4', '5', '6', '7', '8']) := by
    decide +kernel
  have digits : ∀ c ∈ ['1'] ++ (some ['2', '3', '4', '5', '6', '7', '8']).getD [],
      c.isDigit = true := by simp
  have six : decimals "USDC-c76f1f" = some 6 := by decide
  have many : decimals "BIG-1" = some 64 := by decide
  have few := ofScaled_of_shown shown (by decide) digits six
  have full := ofScaled_of_shown shown (by decide) digits many
  rw [Decimal.floor_ofDigits] at few full
  refine ⟨shown, ?_, ?_⟩
  · obtain ⟨raw, units, read⟩ := few.2.1 (by decide)
    have whole : raw.toNat = 1234567 := units.trans (by decide +kernel)
    rw [show raw = ⟨1234567, by decide⟩ from Amount.ext whole] at read
    exact read
  · exact full.2.2 (by decide)

end TokenAmount
end ChainActivity
