import ChainActivity.Amount.Radix
import ChainActivity.Call.Address
import ChainActivity.Text.Base64
import ChainActivity.Text.Numeral
import ChainActivity.Token.Identifier

/-!
# Calls

The payload of a transaction is a call.  Three kinds of call move tokens, and may
then call a function of the receiver; every other call is known by its name only.

## Main definitions

* `Payment` — a number of units of one token.
* `Invocation` — a function of the receiver and its arguments.
* `Call` — a call, with its `name`, `function`, `args`, `payments` and `destination`.
* `DecodeError`, `DecodeError.message` — why a payload is no call.
-/

namespace ChainActivity

/-- A number of units of an item of a collection.  A nonce of zero means the plain
token of that name. -/
structure Payment where
  collection : String
  nonce : UInt64
  amount : Amount
  deriving DecidableEq, Repr

/-- The identifier of the token that a payment moves. -/
def Payment.token (p : Payment) : String :=
  Token.identifier p.collection p.nonce

/-- A payment in a plain token. -/
def Payment.plain (token : String) (amount : Amount) : Payment :=
  ⟨token, 0, amount⟩

@[simp] theorem Payment.token_plain (token : String) (amount : Amount) :
    (Payment.plain token amount).token = token := rfl

/-- A function and its arguments, which are terms in hexadecimal digits. -/
structure Invocation where
  function : String
  args : List String
  deriving DecidableEq, Repr

/-- A call. -/
inductive Call where
  /-- Moves units of a plain token to the receiver of the transaction. -/
  | transfer (token : String) (amount : Amount) (called : Option Invocation)
  /-- Moves units of an item to a destination. -/
  | itemTransfer (payment : Payment) (destination : Address) (called : Option Invocation)
  /-- Moves units of several tokens to a destination. -/
  | multiTransfer (destination : Address) (payments : List Payment) (called : Option Invocation)
  /-- Any other call. -/
  | generic (invocation : Invocation)
  deriving DecidableEq, Repr

namespace Call

/-- The name of a transfer of a plain token. -/
def transferName : String := "ESDTTransfer"

/-- The name of a transfer of an item. -/
def itemTransferName : String := "ESDTNFTTransfer"

/-- The name of a transfer of several tokens. -/
def multiTransferName : String := "MultiESDTNFTTransfer"

/-- The names of the calls that move tokens. -/
def transferNames : List String := [transferName, itemTransferName, multiTransferName]

/-- The name of a call itself. -/
def name : Call → String
  | transfer .. => transferName
  | itemTransfer .. => itemTransferName
  | multiTransfer .. => multiTransferName
  | generic invocation => invocation.function

/-- The function that a call invokes, with its arguments. -/
def invocation? : Call → Option Invocation
  | transfer _ _ called | itemTransfer _ _ called | multiTransfer _ _ called => called
  | generic invocation => some invocation

/-- The function that a call invokes. -/
def function? (call : Call) : Option String :=
  call.invocation?.map Invocation.function

/-- The arguments of the function that a call invokes. -/
def args (call : Call) : List String :=
  (call.invocation?.map Invocation.args).getD []

/-- The tokens that a call moves, in order. -/
def payments : Call → List Payment
  | transfer token amount _ => [.plain token amount]
  | itemTransfer payment _ _ => [payment]
  | multiTransfer _ payments _ => payments
  | generic _ => []

/-- The destination that a call names. -/
def destination? : Call → Option Address
  | itemTransfer _ destination _ | multiTransfer destination _ _ => some destination
  | _ => none

/-- Whether a call moves tokens. -/
def isTransfer : Call → Bool
  | generic _ => false
  | _ => true

end Call

/-- Why a payload is no call. -/
inductive DecodeError where
  /-- The payload is no base64 text. -/
  | base64 (fault : Base64.Fault)
  /-- Bytes are no text. -/
  | notText
  /-- A term is no byte sequence. -/
  | hex (term : String) (fault : Hex.Fault)
  /-- A call has too few terms. -/
  | missingField (call : String) (index : Nat)
  /-- A term is no amount. -/
  | amount (fault : AmountError)
  /-- A term is no number. -/
  | number (term : String) (fault : Numeral.Fault)
  /-- An address has the wrong number of bytes. -/
  | address (size : Nat)
  deriving DecidableEq, Repr

/-- The error in words. -/
def DecodeError.message : DecodeError → String
  | .base64 fault => s!"Invalid base64 payload: {fault.message}"
  | .notText => "Payload is not valid UTF-8"
  | .hex term fault => s!"Invalid hex term: {term}: {fault.message}"
  | .missingField call index => s!"{call}: missing field at index {index}"
  | .amount fault => s!"Invalid amount: {fault.message}"
  | .number term fault => s!"Invalid number: {term}: {fault.message}"
  | .address size => s!"Invalid address: {size} bytes"

end ChainActivity
