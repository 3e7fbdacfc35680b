import ChainActivity.Call.Term
import ChainActivity.Text.Blank

/-!
# Reading calls

The text of a call is cut at the signs `@`, and the terms are read by the layout of
the call that the first of them names.

## Main definitions

* `Call.terms` — the terms of a text.
* `Call.ofText` — the call that a text denotes.
* `Payload.text` — the text of a payload.
* `Call.ofPayload` — the call that a payload denotes.
* `Call.isTransferText` — whether a text begins like a transfer of tokens.
-/

namespace ChainActivity

namespace Call

/-- The terms of a text; there is at least one. -/
def terms (text : String) : List String :=
  (text.toList.splitOn '@').map String.ofList

/-- The term at a position behind the name of a call. -/
def field (call : String) (terms : List String) (index : Nat) : Except DecodeError String :=
  match terms[index]? with
  | some term => .ok term
  | none => .error (.missingField call index)

/-- The function that is called at a position, with all that follows as arguments.
An empty term, or none, calls nothing. -/
def invocationAt (terms : List String) (index : Nat) : Except DecodeError (Option Invocation) :=
  match terms[index]? with
  | none => .ok none
  | some term =>
    if term = "" then .ok none
    else do
      let function ← Term.text term
      .ok (some ⟨function, terms.drop (index + 1)⟩)

/-- A collection, a nonce and an amount, from a position on. -/
def paymentAt (call : String) (terms : List String) (index : Nat) :
    Except DecodeError Payment := do
  let collection ← Term.text (← field call terms index)
  let nonce ← Term.word (← field call terms (index + 1))
  let amount ← Term.amount (← field call terms (index + 2))
  .ok ⟨collection, nonce, amount⟩

/-- A transfer of a plain token: token, amount, and perhaps a function. -/
def readTransfer (terms : List String) : Except DecodeError Call := do
  let token ← Term.text (← field transferName terms 1)
  let amount ← Term.amount (← field transferName terms 2)
  let called ← invocationAt terms 3
  .ok (.transfer token amount called)

/-- A transfer of an item: payment, destination, and perhaps a function. -/
def readItemTransfer (terms : List String) : Except DecodeError Call := do
  let payment ← paymentAt itemTransferName terms 1
  let destination ← Term.address (← field itemTransferName terms 4)
  let called ← invocationAt terms 5
  .ok (.itemTransfer payment destination called)

/-- A transfer of several tokens: destination, number of payments, the payments, and
perhaps a function.  The terms must be enough for the number of payments before any
of them is read. -/
def readMultiTransfer (terms : List String) : Except DecodeError Call := do
  let destination ← Term.address (← field multiTransferName terms 1)
  let count ← Term.word (← field multiTransferName terms 2)
  if terms.length < 3 + 3 * count.toNat then
    .error (.missingField multiTransferName terms.length)
  else do
    let payments ← (List.range count.toNat).mapM fun i =>
      paymentAt multiTransferName terms (3 + 3 * i)
    let called ← invocationAt terms (3 + 3 * count.toNat)
    .ok (.multiTransfer destination payments called)

/-- The call that terms denote. -/
def ofTerms (terms : List String) : Except DecodeError Call :=
  let name := terms.headD ""
  if name = transferName then readTransfer terms
  else if name = itemTransferName then readItemTransfer terms
  else if name = multiTransferName then readMultiTransfer terms
  else .ok (.generic ⟨name, terms.drop 1⟩)

/-- The call that a text denotes. -/
def ofText (text : String) : Except DecodeError Call :=
  ofTerms (terms text)

/-- Whether a text begins with the name of a call that moves tokens. -/
def isTransferText (text : String) : Bool :=
  transferNames.any fun name => name.toList.isPrefixOf text.toList

end Call

/-- The text of a payload, which may stand between white space. -/
def Payload.text (payload : String) : Except DecodeError String :=
  match Base64.decode (Utf8.encode (trim payload.toList)) with
  | .error fault => .error (.base64 fault)
  | .ok bytes =>
    match Utf8.decode? bytes with
    | some s => .ok s
    | none => .error .notText

/-- The call that a payload denotes. -/
def Call.ofPayload (payload : String) : Except DecodeError Call := do
  Call.ofText (← Payload.text payload)

end ChainActivity
