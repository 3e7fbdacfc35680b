import ChainActivity.Keyed
import ChainActivity.Token.Identifier

/-!
# Decimal places of tokens

The amount of a token is shown with the token's decimal places.  A table holds them
for identifiers and collections; the native token is always in it.

## Main definitions

* `Decimals` — decimal places by token, as far as they are known.
* `DecimalsTable` — a finite table, and `DecimalsTable.insert`.
* `DecimalsTable.find?` — the identifier itself first, then its collection.
-/

namespace ChainActivity

/-- The decimal places of each token for which they are known. -/
abbrev Decimals := String → Option UInt32

/-- Decimal places by identifier. -/
abbrev DecimalsTable := Keyed UInt32

namespace DecimalsTable

/-- The table that knows the native token only. -/
def nativeOnly : DecimalsTable :=
  Keyed.empty.insert Token.native Token.nativeDecimals

/-- The native token and entries given in order; a later entry of an identifier
replaces an earlier one. -/
def ofList (entries : List (String × UInt32)) : DecimalsTable :=
  entries.foldl (fun table (token, decimals) => table.insert token decimals) nativeOnly

/-- The decimal places of a token: those of its identifier, else those of its
collection. -/
def find? (table : DecimalsTable) : Decimals := fun token =>
  (table.get? token).or (table.get? (Token.collection token))

end DecimalsTable

end ChainActivity
