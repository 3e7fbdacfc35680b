import ChainActivity.Decimal.Layout
import ChainActivity.Proofs.Decimal.Rounding

/-!
# Doubles as numerals

The text of a finite double is a numeral, and the numeral has a value.

## Main definitions

* `Json.Numeral.magnitude` — the number that the digits of a numeral denote.
* `Layout.positionalNumeral`, `Layout.scientificNumeral` — the two shapes of a double's text.
* `Decimal.numeral` — the numeral of a decimal.

## Main statements

* `Json.Numeral.isSome_real?` — a numeral has a value unless it comes close to the largest double.
* `Decimal.numeral_spec` — the numeral of a decimal denotes the decimal.
* `Layout.exists_numeral_render` — the text of a finite double is a numeral with a value.

## Design notes

Reading rounds three times, which may add up to six last places.  So the few doubles at the
upper end are looked at one by one.
-/

namespace ChainActivity

namespace Json.Numeral

/-- The number that the digits of a numeral denote. -/
def magnitude (n : Numeral) : ℚ :=
  natValue (n.whole ++ n.fraction.getD []) * 10 ^ (n.writtenExponent - (n.fraction.getD []).length)

/-- A numeral has a value unless it comes close to the largest double. -/
theorem isSome_real? {n : Numeral} (whole : natValue n.whole < UInt64.size)
    (fits : n.magnitude * (1 + 1 / 2 ^ 52) ^ 3 < (2 ^ 53 - 1) * Rounding.lastPlace) :
    n.real?.isSome = true := by
  have first : absorb 0 n.whole = (natValue n.whole, 0) := by
    have fits : 0 * 10 ^ n.whole.length + natValue n.whole < UInt64.size := by simpa using whole
    simpa using absorb_of_lt fits
  have taken := absorb_le (natValue n.whole) (n.fraction.getD [])
  have left := absorb_snd_le (natValue n.whole) (n.fraction.getD [])
  have small := absorb_lt whole (n.fraction.getD [])
  rw [real?, first]
  simp only
  rw [magnitude, natValue_append] at fits
  generalize n.fraction.getD [] = fraction at *
  generalize absorb (natValue n.whole) fraction = absorbed at *
  obtain ⟨significand, dropped⟩ := absorbed
  simp only at taken left small ⊢
  rw [Option.isSome_map]
  refine Rounding.assemble?_isSome small (lt_of_le_of_lt ?_ fits)
  have exponent :
      (((0 : Nat) : Int) - ((fraction.length - dropped : Nat) : Int) + n.writtenExponent) =
        (dropped : Int) + (n.writtenExponent - fraction.length) := by omega
  have bound : (significand : ℚ) * 10 ^ dropped ≤
      ((natValue n.whole * 10 ^ fraction.length + natValue fraction : Nat) : ℚ) := by
    exact_mod_cast taken
  rw [exponent, zpow_add₀ (by norm_num), zpow_natCast, ← mul_assoc]
  gcongr

/-- Only a numeral with a fraction or an exponent is a double for certain. -/
theorem value?_eq_real? {n : Numeral}
    (marked : n.fraction.isSome = true ∨ n.exponent.isSome = true) :
    n.value? = n.real?.map .real := by
  have open' : (n.fraction.isNone && n.exponent.isNone) = false := by
    rcases marked with marked | marked
    · rw [Option.isNone_eq_false_iff.mpr marked, Bool.false_and]
    · rw [Option.isNone_eq_false_iff.mpr marked, Bool.and_false]
  rw [value?, open']
  rfl

end Json.Numeral

namespace Layout

open Json (Numeral)
open Json.Numeral (AreDigits IsWellFormed natValue)

/-- The numeral without an exponent whose first digit stands at a power of ten. -/
def positionalNumeral (negative : Bool) (ds : List Char) (power : Int) : Numeral :=
  if power < 0 then
    ⟨negative, ['0'], some (List.replicate (-power - 1).toNat '0' ++ ds), none⟩
  else
    let fraction := ds.drop (power.toNat + 1)
    ⟨negative, ds.take (power.toNat + 1) ++ List.replicate (power.toNat + 1 - ds.length) '0',
      some (if fraction.isEmpty then ['0'] else fraction), none⟩

/-- The numeral with an exponent. -/
def scientificNumeral (negative : Bool) (ds : List Char) (power : Int) : Numeral :=
  ⟨negative, ds.take 1, if (ds.drop 1).isEmpty then none else some (ds.drop 1),
    some (decide (power < 0), Nat.toDigits 10 power.natAbs)⟩

/-- A sign in front of a text. -/
def signed (negative : Bool) (text : List Char) : List Char :=
  if negative then '-' :: text else text

theorem written_eq_signed (n : Numeral) :
    n.written = signed n.negative
      (n.whole ++ (Numeral.fractionText n.fraction ++ Numeral.exponentText n.exponent)) := by
  rw [Numeral.written, signed]
  split <;> rfl

theorem written_positionalNumeral (negative : Bool) (ds : List Char) (power : Int) :
    (positionalNumeral negative ds power).written = signed negative (json.positional ds power) := by
  rw [written_eq_signed, positionalNumeral, positional]
  split
  · simp [Numeral.fractionText, Numeral.exponentText]
  · dsimp only
    split <;> simp [Numeral.fractionText, Numeral.exponentText, json]

theorem written_scientificNumeral (negative : Bool) {ds : List Char} (present : ds ≠ [])
    (power : Int) :
    (scientificNumeral negative ds power).written = signed negative (scientific ds power) := by
  rw [written_eq_signed]
  rcases ds with _ | ⟨d, _ | ⟨e, rest⟩⟩
  · exact absurd rfl present
  · simp [scientificNumeral, scientific, Numeral.fractionText, Numeral.exponentText]
  · simp [scientificNumeral, scientific, Numeral.fractionText, Numeral.exponentText]

section

variable {ds : List Char} (digits : AreDigits ds) (front : ds.head? ≠ some '0')
include digits front

theorem isWellFormed_positionalNumeral (negative : Bool) (power : Int) :
    (positionalNumeral negative ds power).IsWellFormed := by
  have zeros (k : Nat) : ∀ c ∈ List.replicate k '0', c.isDigit = true := by
    intro c member
    rw [List.eq_of_mem_replicate member]
    rfl
  rw [positionalNumeral]
  split
  · refine ⟨⟨List.cons_ne_nil _ _, by simp⟩, by simp, ?_, fun _ absent => nomatch absent⟩
    rintro _ ⟨⟩
    exact ⟨by simp [digits.1], List.forall_mem_append.mpr ⟨zeros _, digits.2⟩⟩
  · obtain ⟨d, rest, rfl⟩ := List.exists_cons_of_ne_nil digits.1
    refine ⟨⟨by simp, List.forall_mem_append.mpr ⟨?_, zeros _⟩⟩, ?_, ?_,
      fun _ absent => nomatch absent⟩
    · exact fun c member => digits.2 c (List.mem_of_mem_take member)
    · intro e es leading
      rw [List.take_succ_cons, List.cons_append] at leading
      exact front (congrArg some (List.cons.inj leading).1)
    · rintro _ ⟨⟩
      split
      · exact ⟨by simp, by simp⟩
      · next present =>
        exact ⟨by simpa using present, fun c member => digits.2 c (List.mem_of_mem_drop member)⟩

theorem isWellFormed_scientificNumeral (negative : Bool) (power : Int) :
    (scientificNumeral negative ds power).IsWellFormed := by
  obtain ⟨d, rest, rfl⟩ := List.exists_cons_of_ne_nil digits.1
  refine ⟨⟨by simp [scientificNumeral], ?_⟩, ?_, ?_, ?_⟩
  · exact fun c member => digits.2 c (List.mem_of_mem_take member)
  · intro e es leading
    simp [scientificNumeral] at leading
  · intro fraction present
    simp only [scientificNumeral, List.drop_succ_cons, List.drop_zero] at present
    split at present
    · cases present
    · next some =>
      cases present
      exact ⟨by simpa using some, fun c member => digits.2 c (List.mem_cons_of_mem d member)⟩
  · rintro _ ⟨⟩
    exact Numeral.areDigits_toDigits _

end

theorem magnitude_positionalNumeral (negative : Bool) (ds : List Char) (power : Int) :
    (positionalNumeral negative ds power).magnitude =
      natValue ds * 10 ^ (power + 1 - ds.length) := by
  have zero : Numeral.digitValue '0' = 0 := rfl
  rw [positionalNumeral]
  split
  · next below =>
    have exponent : (0 : Int) - (((-power - 1).toNat + ds.length : Nat) : Int) =
        power + 1 - ds.length := by omega
    simp only [Numeral.magnitude, Numeral.writtenExponent, Option.getD_some, List.singleton_append,
      Numeral.natValue_cons, zero, Nat.zero_mul, Nat.zero_add, Numeral.natValue_append,
      Numeral.natValue_zeros, List.length_append, List.length_replicate, exponent]
  · next natural =>
    simp only [Numeral.magnitude, Numeral.writtenExponent, Option.getD_some]
    split
    · next short =>
      -- all digits stand before the point, zeros fill up, and one more stands behind
      have within : ds.length ≤ power.toNat + 1 := by simpa using short
      have exponent : power + 1 - (ds.length : Int) =
          ((power.toNat + 1 - ds.length + 1 : Nat) : Int) + (0 - 1) := by omega
      rw [List.take_of_length_le within, List.append_assoc, Numeral.natValue_append,
        Numeral.natValue_append, Numeral.natValue_zeros, Numeral.natValue_cons, zero, exponent,
        zpow_add₀ (by norm_num), zpow_natCast, ← mul_assoc]
      simp [Numeral.natValue]
    · next long =>
      have beyond : power.toNat + 1 < ds.length := by simpa using long
      have exponent : (0 : Int) - ((ds.length - (power.toNat + 1) : Nat) : Int) =
          power + 1 - ds.length := by omega
      rw [Nat.sub_eq_zero_of_le beyond.le, List.replicate_zero, List.append_nil,
        List.take_append_drop, List.length_drop, exponent]

theorem magnitude_scientificNumeral (negative : Bool) {ds : List Char} (present : ds ≠ [])
    (power : Int) :
    (scientificNumeral negative ds power).magnitude =
      natValue ds * 10 ^ (power + 1 - ds.length) := by
  have written : (scientificNumeral negative ds power).writtenExponent = power := by
    by_cases below : power < 0
    · simp only [scientificNumeral, below, decide_true, Numeral.writtenExponent,
        Numeral.natValue_toDigits]
      omega
    · simp only [scientificNumeral, below, decide_false, Numeral.writtenExponent,
        Numeral.natValue_toDigits]
      omega
  have fraction : (scientificNumeral negative ds power).fraction.getD [] = ds.drop 1 := by
    simp only [scientificNumeral]
    split
    · next short => exact (List.isEmpty_iff.mp short).symm
    · rfl
  have length : 0 < ds.length := List.length_pos_iff.mpr present
  have exponent : power - ((ds.drop 1).length : Int) = power + 1 - ds.length := by
    rw [List.length_drop]
    omega
  rw [Numeral.magnitude, written, fraction, exponent]
  simp only [scientificNumeral, List.take_append_drop]

/-- The numeral of a decimal. -/
def numeral (negative : Bool) (d : Decimal) : Numeral :=
  if json.isPositional d.digits.2 then positionalNumeral negative d.digits.1 d.digits.2
  else scientificNumeral negative d.digits.1 d.digits.2

/-- The numeral of a decimal denotes the decimal, and its whole part is small. -/
theorem numeral_spec (negative : Bool) {d : Decimal} (positive : 0 < d.significand) :
    (numeral negative d).written = signed negative (json.renderDecimal d) ∧
      (numeral negative d).IsWellFormed ∧
      natValue (numeral negative d).whole < UInt64.size ∧
      (numeral negative d).magnitude = d.value ∧
      ((numeral negative d).fraction.isSome = true ∨
        (numeral negative d).exponent.isSome = true) := by
  obtain ⟨digits, front, value⟩ := Decimal.digits_spec positive
  have short {ds : List Char} (wellFormed : AreDigits ds) (few : ds.length ≤ 16) :
      natValue ds < UInt64.size := by
    have below := Numeral.natValue_lt wellFormed.2
    have power : 10 ^ ds.length ≤ 10 ^ 16 := Nat.pow_le_pow_right (by decide) few
    exact below.trans (power.trans_lt (by decide))
  have text : json.renderDecimal d =
      if json.isPositional d.digits.2 then json.positional d.digits.1 d.digits.2
      else scientific d.digits.1 d.digits.2 := rfl
  rw [numeral, text]
  split
  · next inside =>
    have wellFormed := isWellFormed_positionalNumeral digits front negative d.digits.2
    refine ⟨written_positionalNumeral .., wellFormed, short wellFormed.whole ?_,
      (magnitude_positionalNumeral ..).trans value, ?_⟩
    · simp only [json, decide_eq_true_eq, Bool.and_eq_true, Bool.decide_and] at inside
      rw [positionalNumeral]
      split
      · simp
      · simp only [List.length_append, List.length_take, List.length_replicate]
        omega
    · rw [positionalNumeral]
      split <;> exact .inl rfl
  · have wellFormed := isWellFormed_scientificNumeral digits front negative d.digits.2
    refine ⟨written_scientificNumeral _ digits.1 _, wellFormed, short wellFormed.whole ?_,
      (magnitude_scientificNumeral _ digits.1 _).trans value, .inr rfl⟩
    simp only [scientificNumeral, List.length_take]
    omega

/-- Apart from the last few, all doubles leave room for three roundings. -/
theorem lt_largest_of_early {mantissa : Nat} {exponent : Int} (bounded : mantissa < 2 ^ 53)
    (within : exponent ≤ 971) (early : exponent = 971 → mantissa < 2 ^ 53 - 8) :
    (4 * mantissa + 2 : ℚ) * 2 ^ (exponent - 2) * (1 + 1 / 2 ^ 52) ^ 3 <
      (2 ^ 53 - 1) * Rounding.lastPlace := by
  have positive := Rounding.lastPlace_pos
  have quarter (e : Int) : (2 : ℚ) ^ (e - 2) = 2 ^ e / 4 := by
    rw [zpow_sub₀ (by norm_num)]
    norm_num
  have mantissa_le {limit : Nat} (below : mantissa < limit) : (mantissa : ℚ) ≤ limit - 1 := by
    have cast : ((mantissa + 1 : Nat) : ℚ) ≤ limit := by exact_mod_cast below
    push_cast at cast
    linarith
  rw [quarter]
  rcases within.lt_or_eq with lower | rfl
  · -- one binary place further down there is room for a doubling
    have power : (2 : ℚ) ^ exponent ≤ Rounding.lastPlace / 2 := by
      have step : (2 : ℚ) ^ exponent ≤ 2 ^ (971 - 1 : Int) :=
        zpow_le_zpow_right₀ (by norm_num) (by omega)
      rwa [zpow_sub_one₀ (by norm_num), ← div_eq_mul_inv] at step
    have most := mantissa_le bounded
    generalize Rounding.lastPlace = place at *
    calc (4 * mantissa + 2 : ℚ) * (2 ^ exponent / 4) * (1 + 1 / 2 ^ 52) ^ 3
        ≤ (4 * (((2 ^ 53 : Nat) : ℚ) - 1) + 2) * (place / 2 / 4) * (1 + 1 / 2 ^ 52) ^ 3 := by gcongr
      _ < (2 ^ 53 - 1) * place := by norm_num; linarith
  · have most := mantissa_le (early rfl)
    rw [← Rounding.lastPlace]
    generalize Rounding.lastPlace = place at *
    calc (4 * mantissa + 2 : ℚ) * (place / 4) * (1 + 1 / 2 ^ 52) ^ 3
        ≤ (4 * (((2 ^ 53 - 8 : Nat) : ℚ) - 1) + 2) * (place / 4) * (1 + 1 / 2 ^ 52) ^ 3 := by gcongr
      _ < (2 ^ 53 - 1) * place := by norm_num; linarith

/-- The last few have a value, too. -/
theorem isSome_real?_late {i : Nat} (late : i < 8) (negative : Bool) :
    (numeral negative (Decimal.shortest json.tie (2 ^ 53 - 1 - i) 971)).real?.isSome = true := by
  have each : ∀ i < 8, ∀ negative,
      (numeral negative (Decimal.shortest json.tie (2 ^ 53 - 1 - i) 971)).real?.isSome = true := by
    decide +kernel
  exact each i late negative

/-- The text of a finite double is a numeral with a value. -/
theorem exists_numeral_render {x : Float} (finite : x.isFinite = true) :
    ∃ n : Numeral, json.render x = n.written ∧ n.IsWellFormed ∧ ∃ y, n.value? = some (.real y) := by
  obtain ⟨negative, mantissa, exponent, found, bounded, -, within⟩ :=
    Rounding.exists_finite_of_isFinite finite
  have text : json.render x = signed negative
      (if mantissa = 0 then json.positional ['0'] 0
        else json.renderDecimal (Decimal.shortest json.tie mantissa exponent)) := by
    rw [render, found, signed]
  rw [text]
  rcases Nat.eq_zero_or_pos mantissa with rfl | nonzero
  · rw [if_pos rfl]
    refine ⟨positionalNumeral negative ['0'] 0, (written_positionalNumeral ..).symm, ?_, _, rfl⟩
    exact
      { whole := ⟨List.cons_ne_nil _ _, by simp [positionalNumeral]⟩
        noLeadingZero := by simp [positionalNumeral]
        fraction := by rintro _ ⟨⟩; exact ⟨List.cons_ne_nil _ _, by simp⟩
        exponent := fun _ absent => nomatch absent }
  · rw [if_neg nonzero.ne']
    obtain ⟨positive, close⟩ := Decimal.shortest_le json.tie nonzero exponent
    obtain ⟨written, wellFormed, whole, magnitude, marked⟩ := numeral_spec negative positive
    refine ⟨_, written.symm, wellFormed, ?_⟩
    have readable :
        (numeral negative (Decimal.shortest json.tie mantissa exponent)).real?.isSome := by
      -- eight doubles come so close to the end that the bound says nothing about them
      by_cases early : exponent = 971 → mantissa < 2 ^ 53 - 8
      · refine Numeral.isSome_real? whole ?_
        refine lt_of_le_of_lt ?_ (lt_largest_of_early bounded within early)
        rw [magnitude]
        gcongr
      · obtain ⟨rfl, late⟩ := Classical.not_imp.mp early
        obtain ⟨i, few, rfl⟩ : ∃ i < 8, mantissa = 2 ^ 53 - 1 - i :=
          ⟨2 ^ 53 - 1 - mantissa, by omega, by omega⟩
        exact isSome_real?_late few negative
    obtain ⟨y, value⟩ := Option.isSome_iff_exists.mp readable
    exact ⟨y, by rw [Numeral.value?_eq_real? marked, value]; rfl⟩

end Layout
end ChainActivity
