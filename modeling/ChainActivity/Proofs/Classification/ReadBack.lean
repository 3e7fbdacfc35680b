import ChainActivity.Proofs.Classification.Sources
import ChainActivity.Proofs.Ledger.RoundTrip

/-!
# Classifications that are read back

The amounts of a classification are computed from whole numbers of units, so that their
numbers to show are finite and their text can be read.  What decides whether it is read back
is the number of decimal digits of the units: sixty-four are read, more are not.

## Main definitions

* `TokenAmount.IsScaled` — whether the number to show is the one computed from the units.

## Main statements

* `Viewpoint.Draws.isScaled` — an amount that is found for a transaction is computed.
* `isScaled_classify` — so the amounts of a classification are.
* `ofText?_toText_classify` — when an amount, and a classification, is read back.

## Design notes

Units have up to seventy-eight decimal digits, and the reader of amounts takes sixty-four in
any base.  The same sixty-four hexadecimal digits hold every number of units.
-/

namespace ChainActivity

/-! ### Computed amounts -/

namespace TokenAmount

/-- Whether the number to show is the one computed from the units. -/
def IsScaled (v : TokenAmount) : Prop :=
  v.scaled = Decimal.scale v.units.toNat v.decimals

theorem IsScaled.isFinite {v : TokenAmount} (scaled : v.IsScaled) : v.scaled.isFinite = true := by
  rw [scaled]
  exact isFinite_scaled_of v.units v.decimals v.token

theorem isScaled_of (units : Amount) (decimals : UInt32) (token : String) :
    (of units decimals token).IsScaled := rfl

theorem isScaled_absent : absent.IsScaled := rfl

theorem isScaled_orElse {result : Except TokenError TokenAmount} {default : TokenAmount}
    (computed : Yields IsScaled result) (fallback : default.IsScaled) :
    (orElse result default).IsScaled := by
  cases result with
  | ok v => exact computed v rfl
  | error e => exact fallback

theorem isScaled_ofUnits (decimals : Decimals) (token : String) (units : Amount) :
    Yields IsScaled (ofUnits decimals token units) := by
  unfold ofUnits
  split
  · exact yields_ok (isScaled_of ..)
  · exact yields_error _

theorem isScaled_ofUnitsOrZero (decimals : Decimals) (token : String) (units : Amount) :
    (ofUnitsOrZero decimals token units).IsScaled :=
  isScaled_orElse (isScaled_ofUnits decimals token units) (isScaled_of ..)

theorem isScaled_ofDecimalOrZero (decimals : Decimals) (token text : String) :
    (ofDecimalOrZero decimals token text).IsScaled := by
  refine isScaled_orElse ?_ (isScaled_of ..)
  unfold ofDecimal ofText
  split
  · exact isScaled_ofUnits _ _ _
  · exact yields_error _

theorem isScaled_sub {v : TokenAmount} (scaled : v.IsScaled) (w : TokenAmount) :
    (v.sub w).IsScaled := by
  rcases sub_cases v w with same | ⟨units, rest⟩
  · rw [same]
    exact scaled
  · rw [rest]
    exact isScaled_of ..

end TokenAmount

/-- An amount that is found for a transaction is computed, wherever it comes from. -/
theorem Viewpoint.Draws.isScaled {v : Viewpoint} {a : TokenAmount} (drawn : v.Draws a) :
    a.IsScaled := by
  induction drawn with
  | native text => exact TokenAmount.isScaled_ofDecimalOrZero ..
  | units named units => exact TokenAmount.isScaled_ofUnitsOrZero ..
  | less drawn taken ih => exact TokenAmount.isScaled_sub ih taken

/-- The amounts of a classification are computed from their units. -/
theorem isScaled_classify (decimals : Decimals) (account : Option String) (tx : Transaction)
    (results : List ContractResult) :
    (classify decimals account tx results).effective.IsScaled ∧
      (classify decimals account tx results).other.IsScaled := by
  obtain ⟨effective, other⟩ :=
    Viewpoint.draws_classified ⟨tx, results, account.getD tx.sender, decimals⟩
  constructor
  · rcases effective with drawn | ⟨-, units, fee⟩
    · exact drawn.isScaled
    · rw [classify, fee]
      exact TokenAmount.isScaled_of ..
  · rcases other with drawn | absent
    · exact drawn.isScaled
    · rw [classify, absent]
      exact TokenAmount.isScaled_absent

/-! ### Reading back -/

/-- An amount is read back from its decimal digits if it is below `10 ^ 64`, and refused for the
number of its digits otherwise; a classification is read back, but for the numbers to show, if
both its amounts are, and not at all otherwise. -/
theorem ofText?_toText_classify (decimals : Decimals) (account : Option String) (tx : Transaction)
    (results : List ContractResult) :
    (∀ a : Amount, Amount.ofText 10 (String.ofList a.toDecimal) =
        if a.toNat < 10 ^ 64 then .ok a else .error (.tooLong a.toDecimal.length)) ∧
      ∃ x y, ClassifiedTransaction.ofText? (classify decimals account tx results).toText =
        if (classify decimals account tx results).effective.units.toNat < 10 ^ 64 ∧
            (classify decimals account tx results).other.units.toNat < 10 ^ 64 then
          some ((classify decimals account tx results).withScaled x y)
        else none := by
  constructor
  · intro a
    rw [Amount.ofText_toDecimal]
    simp only [Amount.length_toDecimal_le_iff]
  · obtain ⟨effective, other⟩ := isScaled_classify decimals account tx results
    generalize classify decimals account tx results = c at effective other
    obtain ⟨x, y, read⟩ := ClassifiedTransaction.ofText?_toText effective.isFinite other.isFinite
    refine ⟨x, y, ?_⟩
    simp only [read, TokenAmount.fitsText, Bool.and_eq_true, decide_eq_true_eq,
      Amount.length_toDecimal_le_iff]

/-- A transfer of `10 ^ 64` units, which the payload gives in sixty-four hexadecimal digits. -/
def largeTransfer : Transaction where
  data := some ("RVNEVFRyYW5zZmVyQDQxMmQzMUAwMDAwMDAwMDAwMTg0ZjAzZTkzZmY5ZjRkYWE3OTdlZDZlMzhl" ++
    "ZDY0YmY2YTFmMDEwMDAwMDAwMDAwMDAwMDAw")

/-- Neither this amount is read back nor the classification. -/
theorem ofText?_toText_largeTransfer :
    Amount.ofText 10 (String.ofList
        (classify (fun _ => some 18) none largeTransfer []).effective.units.toDecimal) =
      .error (.tooLong 65) ∧
    ClassifiedTransaction.ofText? (classify (fun _ => some 18) none largeTransfer []).toText =
      none := by
  have units :
      (classify (fun _ => some 18) none largeTransfer []).effective.units.toNat = 10 ^ 64 := by
    decide +kernel
  obtain ⟨effective, other⟩ := isScaled_classify (fun _ => some 18) none largeTransfer []
  generalize classify (fun _ => some 18) none largeTransfer [] = c at units effective other
  have digits : c.effective.units.toDecimal.length = 65 := by
    rw [Amount.toDecimal, units]
    decide +kernel
  have long : ¬ c.effective.units.toDecimal.length ≤ Amount.maxSize := by
    rw [digits]
    decide
  obtain ⟨x, y, read⟩ := ClassifiedTransaction.ofText?_toText effective.isFinite other.isFinite
  constructor
  · rw [Amount.ofText_toDecimal, if_neg long, digits]
  · rw [read, TokenAmount.fitsText, decide_eq_false long]
    rfl

end ChainActivity
