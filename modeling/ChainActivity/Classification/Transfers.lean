import ChainActivity.Call.Parser
import ChainActivity.Ledger.Activity

/-!
# Transfers among results

The results of a transaction tell which tokens were moved in return.  A result counts
if its payload is a transfer; a payload that is no text, or that begins like no
transfer, is passed over, but one that begins like a transfer must be one.

## Main definitions

* `ContractResult.transferText?` — the text of a result that begins like a transfer.
* `ContractResult.payments` — the payments of a result.
* `paymentsOf` — the payments of results, in order.
* `transferAmounts` — their amounts.
* `referencedTokens` — the tokens that a transaction and its results name.
-/

namespace ChainActivity

/-- The amount that a payment moves; zero if the token is not known. -/
def Payment.value (decimals : Decimals) (p : Payment) : TokenAmount :=
  TokenAmount.ofUnitsOrZero decimals p.token p.amount

/-- The text of a result that begins like a transfer of tokens. -/
def ContractResult.transferText? (r : ContractResult) : Option String :=
  (r.payload?.bind fun data => (Payload.text data).toOption).filter Call.isTransferText

/-- The payments of a result, if its call is of a kind that is asked for. -/
def ContractResult.payments (keep : Call → Bool) (r : ContractResult) :
    Except DecodeError (List Payment) :=
  match r.transferText? with
  | none => .ok []
  | some text =>
    match Call.ofText text with
    | .ok call => .ok (if keep call then call.payments else [])
    | .error e => .error e

/-- The payments of results, in order; the first result that is no transfer although
it begins like one is reported. -/
def paymentsOf (keep : Call → Bool) :
    List ContractResult → Except DecodeError (List Payment)
  | [] => .ok []
  | r :: rest => do
    let first ← r.payments keep
    let others ← paymentsOf keep rest
    .ok (first ++ others)

/-- The amounts that all transfers among results move, in order. -/
def transferAmounts (decimals : Decimals) (results : List ContractResult) :
    Except DecodeError (List TokenAmount) :=
  (paymentsOf (fun _ => true) results).map fun ps => ps.map (Payment.value decimals)

/-- Whether a call is a transfer of a plain token. -/
def Call.isPlainTransfer : Call → Bool
  | .transfer .. => true
  | _ => false

/-- The tokens that a payload moves, if it can be read. -/
def Payload.tokens (data : String) : List String :=
  match Call.ofPayload data with
  | .ok call => call.payments.map Payment.token
  | .error _ => []

/-- The tokens that a transaction and its results name: the native one first, then
those of each payload, in order and with repetitions. -/
def referencedTokens (tx : Transaction) (results : List ContractResult) : List String :=
  Token.native ::
    ((tx.payload?.toList ++ results.filterMap ContractResult.data).flatMap Payload.tokens)

end ChainActivity
