import ChainActivity.Json.Record
import ChainActivity.Token.Amount

/-!
# Amounts of tokens as documents

An amount of a token is written as a record of four members.  The number of units
does not fit a JSON number and is written as a text of decimal digits.

## Main definitions

* `TokenAmount.toJson`, `TokenAmount.ofJson?`.
-/

namespace ChainActivity.TokenAmount

/-- The names of the members, in the order in which they are written. -/
def memberNames : List String := ["raw", "decimals", "value", "token"]

/-- An amount of a token as a document. -/
def toJson (v : TokenAmount) : Json :=
  .ofMembers
    [("raw", .text (String.ofList v.units.toDecimal)),
      ("decimals", .ofWord32 v.decimals),
      ("value", .number (.real v.scaled)),
      ("token", .text v.token)]

/-- A number of units, written in decimal digits. -/
def unitsOfJson? (v : Json) : Option Amount := do
  let text ← v.string?
  (Amount.ofText 10 text).toOption

/-- The amount of a token that a document is.  The number of units must be given; the
number that a reader sees is taken as it is given. -/
def ofJson? (v : Json) : Option TokenAmount := do
  let r ← v.record? memberNames
  let units ← r.need "raw" unitsOfJson?
  let decimals ← r.get "decimals" Json.word32? 0
  let scaled ← r.get "value" Json.double? 0
  let token ← r.get "token" Json.string? ""
  some ⟨units, decimals, scaled, token⟩

end ChainActivity.TokenAmount
