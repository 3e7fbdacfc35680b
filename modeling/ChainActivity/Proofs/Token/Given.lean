import ChainActivity.Proofs.Classification.ReadBack
import ChainActivity.Proofs.Decimal.Rounding
import ChainActivity.Proofs.Json.Records

/-!
# Amounts that a document gives

An amount that is computed shows the number of its units.  An amount that is read from a document
need not: the units and the number to show are members of their own, the second one may be left
out, and nothing compares them.  What is read is therefore told by the document member by member,
and it shows the number of its units exactly if the document says so.

## Main definitions

* `TokenAmount.ofJsonText?` — the amount that a text of a document is.
* `TokenAmount.ShowsUnits` — whether the number to show is the one of the units.
* `TokenAmount.IsGivenBy` — whether a document gives an amount.

## Main statements

* `Decimal.scale_zero` — no units are shown as zero.
* `TokenAmount.IsScaled.showsUnits` — what is computed shows its units.
* `TokenAmount.ofJson?_eq_some_iff` — what is read from a document is what it gives.
* `TokenAmount.showsUnits_iff_of_given` — when an amount that is read from a text
  shows its units.

## Design notes

`TokenAmount.IsScaled` is equality of doubles bit by bit.  A document may give a zero with a sign,
which equals the other zero as a number, so that amounts which are read are compared as numbers.
-/

namespace ChainActivity

open Float.Model
open Json (given?)

/-- No units are shown as zero, whatever the decimal places. -/
theorem Decimal.scale_zero (decimals : UInt32) : ((0 : Float) == scale 0 decimals) = true := by
  have zero : (Float.ofNat 0).toModel.unpack = .zero .positive := by rfl
  have quotient (power : Float) : Float.ofNat 0 / power = .ofModel (Float.Model.pack
      (UnpackedFloat.div Format.binary64 (.zero .positive) power.toModel.unpack)) := by
    rw [← zero]
    rfl
  rw [scale, quotient]
  rcases Rounding.zero_div (powerOfTen (min decimals.toNat maxExponent)).toModel.unpack with
    undefined | ⟨sign, found⟩
  · rw [undefined]
    decide +kernel
  · rw [found]
    cases sign <;> decide +kernel

namespace TokenAmount

/-- The amount of a token that a text of a document is. -/
def ofJsonText? (text : String) : Option TokenAmount :=
  (Json.ofText? text).bind ofJson?

/-- Whether the number to show is the one of the units.  A zero is one with either sign. -/
def ShowsUnits (v : TokenAmount) : Prop :=
  (v.scaled == Decimal.scale v.units.toNat v.decimals) = true

/-- What is computed from the units shows them. -/
theorem IsScaled.showsUnits {v : TokenAmount} (scaled : v.IsScaled) : v.ShowsUnits := by
  have finite := scaled.isFinite
  rw [scaled] at finite
  rw [ShowsUnits, scaled]
  exact Rounding.beq_self finite

/-! ### Member by member -/

/-- A document gives an amount if its units stand there in decimal digits, and each other field
is what its member says, or the default if there is no such member.  No field depends on another
one. -/
structure IsGivenBy (doc : Json) (v : TokenAmount) : Prop where
  record : doc.IsRecord memberNames
  units : ∃ text, doc.member? memberNames "raw" = some (.text text) ∧
    Amount.ofText 10 text = .ok v.units
  decimals : given? Json.word32? 0 (doc.member? memberNames "decimals") = some v.decimals
  scaled : given? Json.double? 0 (doc.member? memberNames "value") = some v.scaled
  token : given? Json.string? "" (doc.member? memberNames "token") = some v.token

theorem unitsOfJson?_eq_some_iff {doc : Json} {units : Amount} :
    unitsOfJson? doc = some units ↔
      ∃ text, doc = .text text ∧ Amount.ofText 10 text = .ok units := by
  cases doc with
  | text text =>
    have read : unitsOfJson? (.text text) = (Amount.ofText 10 text).toOption := rfl
    rw [read]
    cases denoted : Amount.ofText 10 text <;> simp [denoted, Except.toOption]
  | _ => simp [unitsOfJson?, Json.string?]

/-- **What is read from a document is what the document gives.** -/
theorem ofJson?_eq_some_iff {doc : Json} {v : TokenAmount} :
    ofJson? doc = some v ↔ v.IsGivenBy doc := by
  constructor
  · intro read
    simp only [ofJson?, Option.bind_eq_bind, Option.bind_eq_some_iff] at read
    obtain ⟨r, found, units, raw, decimals, places, scaled, number, token, name, made⟩ := read
    cases made
    rw [Json.Record.need, Json.lookup_entries_of_record? found (by decide),
      Option.bind_eq_some_iff] at raw
    rw [Json.Record.get_eq_given? found (by decide)] at places number name
    obtain ⟨member, present, raw⟩ := raw
    obtain ⟨text, rfl, denoted⟩ := unitsOfJson?_eq_some_iff.mp raw
    exact ⟨Json.exists_record?_iff.mp ⟨r, found⟩, ⟨text, present, denoted⟩, places, number, name⟩
  · rintro ⟨record, ⟨text, present, denoted⟩, places, number, name⟩
    obtain ⟨r, found⟩ := Json.exists_record?_iff.mpr record
    have raw : r.need "raw" unitsOfJson? = some v.units := by
      rw [Json.Record.need, Json.lookup_entries_of_record? found (by decide), present]
      exact unitsOfJson?_eq_some_iff.mpr ⟨text, rfl, denoted⟩
    rw [← Json.Record.get_eq_given? found (by decide)] at places number name
    simp only [ofJson?, found, raw, places, number, name, Option.bind_eq_bind, Option.bind_some]

/-! ### The number to show -/

/-- **An amount that is read from a text shows its units exactly if the text gives their number.**
Without a number it shows zero, which is right if there are no units; with other units it is right
only where dividing by the power of ten leaves nothing. -/
theorem showsUnits_iff_of_given {text : String} {v : TokenAmount}
    (read : ofJsonText? text = some v) :
    ∃ doc, Json.ofText? text = some doc ∧ v.IsGivenBy doc ∧
      (∀ number x, doc.member? memberNames "value" = some number → number.double? = some x →
        (v.ShowsUnits ↔ (x == Decimal.scale v.units.toNat v.decimals) = true)) ∧
      (doc.member? memberNames "value" = none →
        (v.ShowsUnits ↔ ((0 : Float) == Decimal.scale v.units.toNat v.decimals) = true) ∧
        (v.isZero = true → v.ShowsUnits)) := by
  obtain ⟨doc, parsed, accepted⟩ := Option.bind_eq_some_iff.mp read
  have given := ofJson?_eq_some_iff.mp accepted
  refine ⟨doc, parsed, given, fun number x present value => ?_, fun missing => ?_⟩
  · have shown := given.scaled
    rw [present, given?, value] at shown
    rw [ShowsUnits, Option.some.inj shown]
  · have shown := given.scaled
    rw [missing, given?] at shown
    rw [ShowsUnits, ← Option.some.inj shown]
    refine ⟨Iff.rfl, fun nothing => ?_⟩
    rw [of_decide_eq_true nothing]
    exact Decimal.scale_zero v.decimals

/-- A list that ends before the number to show. -/
theorem showsUnits_iff_of_given_of_zero :
    ∃ v, ofJsonText? "[\"0\",18]" = some v ∧ v.decimals = 18 ∧ v.ShowsUnits := by
  have reads : (ofJsonText? "[\"0\",18]").map (fun v => (v.decimals, v.isZero)) =
      some (18, true) := by decide +kernel
  have parses : (Json.ofText? "[\"0\",18]").map
      (fun doc => (doc.member? memberNames "value").isNone) = some true := by decide +kernel
  obtain ⟨v, read, fields⟩ := Option.map_eq_some_iff.mp reads
  obtain ⟨doc, parsed, -, -, missing⟩ := showsUnits_iff_of_given read
  rw [parsed] at parses
  have absent := Option.isNone_iff_eq_none.mp (Option.some.inj parses)
  exact ⟨v, read, congrArg Prod.fst fields, (missing absent).2 (congrArg Prod.snd fields)⟩

/-- Forty-two units without a number to show are read, and show zero. -/
theorem not_showsUnits_of_missing_number :
    ∃ v, ofJsonText? "\x7b\"raw\":\"42\",\"extra\":true\x7d" = some v ∧
      v.units.toNat = 42 ∧ v.decimals = 0 ∧ ¬ v.ShowsUnits := by
  have reads : (ofJsonText? "\x7b\"raw\":\"42\",\"extra\":true\x7d").map (fun v =>
      (v.units.toNat, v.decimals, v.scaled == Decimal.scale v.units.toNat v.decimals)) =
        some (42, 0, false) := by decide +kernel
  obtain ⟨v, read, fields⟩ := Option.map_eq_some_iff.mp reads
  obtain ⟨units, rest⟩ := Prod.mk.inj fields
  obtain ⟨decimals, apart⟩ := Prod.mk.inj rest
  exact ⟨v, read, units, decimals, Bool.eq_false_iff.mp apart⟩

end TokenAmount
end ChainActivity
