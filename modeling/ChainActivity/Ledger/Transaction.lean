import ChainActivity.Text.Blank

/-!
# Transactions

The records of the ledger: transactions, and the results that contracts emit while a
transaction is carried out.

## Main definitions

* `Transaction` and `Transaction.payload?`.
* `ContractResult` and `ContractResult.payload?`.
* `metachain` — the sender of transfers that the protocol itself issues.
-/

namespace ChainActivity

/-- The sender of transfers that the protocol itself issues. -/
def metachain : String := "4294967295"

/-- A transaction. -/
structure Transaction where
  /-- The hash, in hexadecimal digits. -/
  hash : String := ""
  /-- The address of the sender, or `metachain`. -/
  sender : String := ""
  /-- The address of the receiver. -/
  receiver : String := ""
  /-- The units of the native token that are moved, in decimal digits. -/
  value : String := ""
  /-- The payload, in base64. -/
  data : Option String := none
  /-- The nonce of the sender's account. -/
  nonce : UInt64 := 0
  gasLimit : UInt64 := 0
  gasPrice : UInt64 := 0
  gasUsed : UInt64 := 0
  /-- The fee that was paid, in decimal digits. -/
  fee : String := ""
  /-- Seconds since 1970. -/
  timestamp : UInt64 := 0
  senderShard : UInt32 := 0
  receiverShard : UInt32 := 0
  /-- The identifiers of the tokens that are moved. -/
  tokens : List String := []
  /-- The units of each of `tokens`, in decimal digits. -/
  tokenValues : List String := []
  /-- How the execution went. -/
  status : String := ""
  /-- Whether the receiver is a contract that the transaction calls. -/
  isContractCall : Bool := false
  deriving DecidableEq, Inhabited, Repr

/-- A result that a contract emits while a transaction is carried out. -/
structure ContractResult where
  hash : String := ""
  /-- The contract that emits the result. -/
  sender : String := ""
  /-- The account that is credited. -/
  receiver : String := ""
  /-- The units of the native token that are moved, in decimal digits. -/
  value : String := ""
  /-- The payload, in base64. -/
  data : Option String := none
  /-- The hash of the transaction that started the execution. -/
  originalHash : String := ""
  /-- The hash of the transaction or result that led to this one. -/
  previousHash : String := ""
  /-- The sender of the transaction that started the execution. -/
  originalSender : Option String := none
  nonce : UInt64 := 0
  /-- Seconds since 1970. -/
  timestamp : UInt64 := 0
  deriving DecidableEq, Inhabited, Repr

/-- The payload of a transaction; a blank one counts as absent. -/
def Transaction.payload? (tx : Transaction) : Option String :=
  tx.data.filter fun data => !allBlank data

/-- The payload of a result; a blank one counts as absent. -/
def ContractResult.payload? (r : ContractResult) : Option String :=
  r.data.filter fun data => !allBlank data

/-- Whether a result moves units of the native token and nothing else. -/
def ContractResult.isPlain (r : ContractResult) : Bool :=
  r.payload?.isNone

end ChainActivity
