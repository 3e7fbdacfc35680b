import ChainActivity.Json.Reader
import ChainActivity.Json.Writer
import ChainActivity.Ledger.Activity
import ChainActivity.Token.Document

/-!
# Records of the ledger as documents

Every member of a transaction and of a result may be missing and then has its
default.  A classified transaction is written as one flat object: the members of the
transaction, and behind them those of its meaning.

## Main definitions

* `Transaction.ofJson?`, `ContractResult.ofJson?` — reading records of the ledger.
* `ClassifiedTransaction.toJson`, `ClassifiedTransaction.ofJson?`.
* `ClassifiedTransaction.toText`, `ClassifiedTransaction.ofText?`.

## Design notes

A flat object is read in one pass.  The members of the meaning are read where they
stand.  All others are set aside as whole documents first, because it is not known
yet which of them belong to the transaction; so each of these must be readable, and
its nesting is bounded.
-/

namespace ChainActivity

namespace Transaction

/-- The names of the members, in the order in which they are written. -/
def memberNames : List String :=
  ["txHash", "sender", "receiver", "value", "data", "nonce", "gasLimit", "gasPrice", "gasUsed",
    "fee", "timestamp", "senderShard", "receiverShard", "tokens", "esdtValues", "status",
    "isScCall"]

/-- The members of a transaction. -/
def members (tx : Transaction) : List (String × Json) :=
  [("txHash", .text tx.hash),
    ("sender", .text tx.sender),
    ("receiver", .text tx.receiver),
    ("value", .text tx.value),
    ("data", .ofOption tx.data),
    ("nonce", .ofWord64 tx.nonce),
    ("gasLimit", .ofWord64 tx.gasLimit),
    ("gasPrice", .ofWord64 tx.gasPrice),
    ("gasUsed", .ofWord64 tx.gasUsed),
    ("fee", .text tx.fee),
    ("timestamp", .ofWord64 tx.timestamp),
    ("senderShard", .ofWord32 tx.senderShard),
    ("receiverShard", .ofWord32 tx.receiverShard),
    ("tokens", .ofStrings tx.tokens),
    ("esdtValues", .ofStrings tx.tokenValues),
    ("status", .text tx.status),
    ("isScCall", .bool tx.isContractCall)]

/-- The transaction that a record is. -/
def ofRecord? (r : Json.Record) : Option Transaction := do
  let hash ← r.get "txHash" Json.string? ""
  let sender ← r.get "sender" Json.string? ""
  let receiver ← r.get "receiver" Json.string? ""
  let value ← r.get "value" Json.string? ""
  let data ← r.get "data" (Json.optional? Json.string?) none
  let nonce ← r.get "nonce" Json.word64? 0
  let gasLimit ← r.get "gasLimit" Json.word64? 0
  let gasPrice ← r.get "gasPrice" Json.word64? 0
  let gasUsed ← r.get "gasUsed" Json.word64? 0
  let fee ← r.get "fee" Json.string? ""
  let timestamp ← r.get "timestamp" Json.word64? 0
  let senderShard ← r.get "senderShard" Json.word32? 0
  let receiverShard ← r.get "receiverShard" Json.word32? 0
  let tokens ← r.get "tokens" (Json.list? Json.string?) []
  let tokenValues ← r.get "esdtValues" (Json.list? Json.string?) []
  let status ← r.get "status" Json.string? ""
  let isContractCall ← r.get "isScCall" Json.flag? false
  some
    { hash, sender, receiver, value, data, nonce, gasLimit, gasPrice, gasUsed, fee, timestamp,
      senderShard, receiverShard, tokens, tokenValues, status, isContractCall }

/-- The transaction that a document is. -/
def ofJson? (v : Json) : Option Transaction :=
  (v.record? memberNames).bind ofRecord?

end Transaction

namespace ContractResult

/-- The names of the members, in the order of their values in a list. -/
def memberNames : List String :=
  ["hash", "sender", "receiver", "value", "data", "originalTxHash", "prevTxHash",
    "originalSender", "nonce", "timestamp"]

/-- The result that a document is. -/
def ofJson? (v : Json) : Option ContractResult := do
  let r ← v.record? memberNames
  let hash ← r.get "hash" Json.string? ""
  let sender ← r.get "sender" Json.string? ""
  let receiver ← r.get "receiver" Json.string? ""
  let value ← r.get "value" Json.string? ""
  let data ← r.get "data" (Json.optional? Json.string?) none
  let originalHash ← r.get "originalTxHash" Json.string? ""
  let previousHash ← r.get "prevTxHash" Json.string? ""
  let originalSender ← r.get "originalSender" (Json.optional? Json.string?) none
  let nonce ← r.get "nonce" Json.word64? 0
  let timestamp ← r.get "timestamp" Json.word64? 0
  some
    { hash, sender, receiver, value, data, originalHash, previousHash, originalSender, nonce,
      timestamp }

end ContractResult

/-- The kind of activity that a document names: its name, or an object with the name
as its only member. -/
def Activity.ofJson? : Json → Option Activity
  | .text name => Activity.ofName? name
  | .object [(some name, .null)] => Activity.ofName? name
  | _ => none

namespace ClassifiedTransaction

/-- The names of the members of the meaning. -/
def memberNames : List String := ["type", "function", "effectiveValue", "otherValue"]

/-- A classified transaction as a document. -/
def toJson (c : ClassifiedTransaction) : Json :=
  .ofMembers
    (c.transaction.members ++
      [("type", .text c.activity.name),
        ("function", .ofOption c.function),
        ("effectiveValue", c.effective.toJson),
        ("otherValue", c.other.toJson)])

/-- The text of a classified transaction. -/
def toText (c : ClassifiedTransaction) : String :=
  c.toJson.toText

/-- Whether a member belongs to the meaning of a transaction. -/
def isOwn (m : Option String × Json) : Bool :=
  memberNames.any fun name => m.1 = some name

/-- Whether a member that is set aside can be read as a whole within an object. -/
def canSetAside (m : Option String × Json) : Bool :=
  m.1.isSome && m.2.isReadable && decide (m.2.depth < Json.maxDepth)

/-- The classified transaction that a document is. -/
def ofJson? : Json → Option ClassifiedTransaction
  | .object members => do
    let own ← Json.knownMembers? memberNames (members.filter isOwn)
    let aside := members.filter fun m => !isOwn m
    if aside.all canSetAside then
      let r : Json.Record := ⟨own⟩
      let known ← Json.knownMembers? Transaction.memberNames aside
      let transaction ← Transaction.ofRecord? ⟨known⟩
      let activity ← r.need "type" Activity.ofJson?
      let function ← r.get "function" (Json.optional? Json.string?) none
      let effective ← r.get "effectiveValue" TokenAmount.ofJson? .absent
      let other ← r.get "otherValue" TokenAmount.ofJson? .absent
      some { transaction, activity, function, effective, other }
    else none
  | _ => none

/-- The classified transaction that a text is. -/
def ofText? (text : String) : Option ClassifiedTransaction :=
  (Json.ofText? text).bind ofJson?

end ClassifiedTransaction

end ChainActivity
