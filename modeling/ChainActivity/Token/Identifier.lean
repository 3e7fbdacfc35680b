import ChainActivity.Text.Hex

/-!
# Token identifiers

A token is named by an identifier.  The identifier of a plain token is that of its
collection, a ticker and a random suffix with a dash between them.  A single item of
a collection has a nonce, which its identifier shows behind a second dash.

## Main definitions

* `Token.native` — the token of the chain itself.
* `Token.ticker` — the part before the first dash.
* `Token.collection` — the part before the second dash.
* `Token.identifier` — a collection and a nonce as one identifier.
-/

namespace ChainActivity.Token

/-- The token of the chain itself. -/
def native : String := "EGLD"

/-- The decimal places of the native token. -/
def nativeDecimals : UInt32 := 18

/-- The characters before the first dash. -/
def beforeDash (cs : List Char) : List Char :=
  cs.takeWhile (· ≠ '-')

/-- The characters before the second dash. -/
def beforeSecondDash (cs : List Char) : List Char :=
  match cs.dropWhile (· ≠ '-') with
  | [] => cs
  | _ :: rest => beforeDash cs ++ '-' :: beforeDash rest

/-- The ticker of an identifier. -/
def ticker (token : String) : String :=
  String.ofList (beforeDash token.toList)

/-- The collection of an identifier: the identifier without its nonce. -/
def collection (token : String) : String :=
  String.ofList (beforeSecondDash token.toList)

/-- The identifier of an item of a collection.  A nonce of zero is not shown; any
other nonce is shown in whole bytes. -/
def identifier (collection : String) (nonce : UInt64) : String :=
  if nonce = 0 then collection
  else String.ofList (collection.toList ++ '-' :: Hex.ofNat nonce.toNat)

@[simp] theorem identifier_zero (collection : String) : identifier collection 0 = collection :=
  rfl

end ChainActivity.Token
