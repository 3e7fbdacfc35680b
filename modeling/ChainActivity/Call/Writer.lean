import ChainActivity.Call.Basic
import ChainActivity.Text.Hex

/-!
# Writing calls

Every call has a canonical text.  Texts, keys and numbers become terms in lower-case
digits, two for each byte; a function stands behind the fixed terms of its call, and
its arguments behind it.

## Main definitions

* `Term.ofText`, `Term.ofNat`, `Term.ofAddress` — values as terms.
* `Call.toTerms` — the terms of a call.
* `Call.toText` — the terms with the sign `@` between them.
* `Call.toPayload` — the text as a payload.
-/

namespace ChainActivity

namespace Term

/-- A text as a term. -/
def ofText (s : String) : String :=
  String.ofList (Hex.encode (Utf8.encode s.toList))

/-- A number as a term, in the fewest whole bytes. -/
def ofNat (n : Nat) : String :=
  String.ofList (Hex.ofNat n)

/-- An address as a term. -/
def ofAddress (a : Address) : String :=
  String.ofList (Hex.encode a.key)

end Term

/-- The terms of a payment: collection, nonce and amount. -/
def Payment.toTerms (p : Payment) : List String :=
  [Term.ofText p.collection, Term.ofNat p.nonce.toNat, Term.ofNat p.amount.toNat]

/-- The terms of what a transfer calls; there are none if it calls nothing. -/
def Invocation.toTerms : Option Invocation → List String
  | none => []
  | some called => Term.ofText called.function :: called.args

namespace Call

/-- The terms of a call. -/
def toTerms : Call → List String
  | transfer token amount called =>
    transferName :: Term.ofText token :: Term.ofNat amount.toNat :: Invocation.toTerms called
  | itemTransfer payment destination called =>
    itemTransferName ::
      (payment.toTerms ++ Term.ofAddress destination :: Invocation.toTerms called)
  | multiTransfer destination payments called =>
    multiTransferName :: Term.ofAddress destination :: Term.ofNat payments.length ::
      (payments.flatMap Payment.toTerms ++ Invocation.toTerms called)
  | generic invocation => invocation.function :: invocation.args

/-- Terms with the sign `@` between them. -/
def join (terms : List String) : String :=
  String.ofList (['@'].intercalate (terms.map String.toList))

/-- The canonical text of a call. -/
def toText (call : Call) : String :=
  join call.toTerms

/-- The canonical payload of a call. -/
def toPayload (call : Call) : String :=
  String.ofList (Base64.encode (Utf8.encode call.toText.toList))

/-! ### Laws -/

/-- A payment takes three terms. -/
@[simp] theorem length_toTerms_payment (p : Payment) : p.toTerms.length = 3 := rfl

/-- Payments take three terms each. -/
@[simp] theorem length_flatMap_toTerms (payments : List Payment) :
    (payments.flatMap Payment.toTerms).length = 3 * payments.length := by
  induction payments with
  | nil => rfl
  | cons p rest ih =>
    simp only [List.flatMap_cons, List.length_append, length_toTerms_payment, ih,
      List.length_cons]
    omega

end Call

end ChainActivity
