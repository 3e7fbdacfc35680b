import ChainActivity.Proofs.Classification.Unreadable

/-!
# Results that are addressed to the account

Where a finding looks for what the account got in return, it looks at the results that are
addressed to the account, if there are any.  Then no other result is even read: others may
come and go, stand in any order, and have payloads that cannot be read.

## Main definitions

* `Call.IsExchange` — the calls whose findings look for what the account got in return.
* `Viewpoint.ownResults` — the results that are addressed to the account.
* `Viewpoint.withResults` — the same view with other results.

## Main statements

* `Viewpoint.consideredResults_eq_ownResults` — which results are considered.
* `Viewpoint.find_withResults` — the finding for an exchange depends on those only.
* `classify_of_own_results` — so does the meaning of a transaction.

## Design notes

A result that begins like a transfer and is none stops a reading, so it would not do to show
that what others get is left out of the amounts.  The two views are therefore compared before
anything is read, by the lists of results that they consider.
-/

namespace ChainActivity

/-- Calls that get tokens for tokens: transfers of a plain token, among them those that swap
it or leave a pool, and the wrapping of native tokens. -/
inductive Call.IsExchange : Call → Prop
  | transfer (token : String) (amount : Amount) (called : Option Invocation) :
    IsExchange (.transfer token amount called)
  | wrap (args : List String) : IsExchange (.generic ⟨"wrapEgld", args⟩)

namespace Viewpoint

variable {v : Viewpoint}

/-- The results that are addressed to the account. -/
def ownResults (v : Viewpoint) : List ContractResult :=
  v.results.filter (·.receiver = v.account)

/-- The same view with other results. -/
def withResults (v : Viewpoint) (results : List ContractResult) : Viewpoint :=
  { v with results }

/-- If there are results that are addressed to the account, they are the ones considered. -/
theorem consideredResults_eq_ownResults (paid : v.ownResults ≠ []) :
    v.consideredResults = v.ownResults := by
  unfold consideredResults
  split
  · next none => exact absurd none paid
  · rfl

/-- Results that are addressed to the account are marks of contracts. -/
theorem hasContractMarks_of_ownResults (paid : v.ownResults ≠ []) :
    v.hasContractMarks = true := by
  refine hasContractMarks_of_results fun none => paid ?_
  rw [ownResults, none, List.filter_nil]

section SameResults

variable {results : List ContractResult}
  (considered : (v.withResults results).consideredResults = v.consideredResults)
include considered

/-- What results move is read from the ones considered. -/
theorem plainTransferAmounts_withResults :
    (v.withResults results).plainTransferAmounts = v.plainTransferAmounts := by
  rw [plainTransferAmounts, considered]
  rfl

theorem findTransfer_withResults (payment : Payment) (function : Option String) :
    (v.withResults results).findTransfer payment function = v.findTransfer payment function := by
  unfold findTransfer
  rw [plainTransferAmounts_withResults considered]
  rfl

theorem findGeneric_withResults (args : List String) :
    (v.withResults results).findGeneric ⟨"wrapEgld", args⟩ = v.findGeneric ⟨"wrapEgld", args⟩ := by
  have meaning : ContractFunction.ofName? "wrapEgld" = some .wrapEgld := by decide
  unfold findGeneric
  simp only [meaning]
  rw [plainTransferAmounts_withResults considered]
  rfl

/-- The finding for an exchange depends on the results considered only. -/
theorem find_withResults {call : Call} (exchange : call.IsExchange) :
    (v.withResults results).find call = v.find call := by
  cases exchange with
  | transfer token amount called => exact findTransfer_withResults considered _ _
  | wrap args => exact findGeneric_withResults considered args

end SameResults

/-- The meaning of an exchange depends on the results that are addressed to the account, if
there are any. -/
theorem classified_withResults {results : List ContractResult} {data : String} {call : Call}
    (payload : v.transaction.payload? = some data) (readable : Call.ofPayload data = .ok call)
    (exchange : call.IsExchange) (paid : v.ownResults ≠ [])
    (same : (v.withResults results).ownResults = v.ownResults) :
    (v.withResults results).classified = v.classified := by
  have paid' : (v.withResults results).ownResults ≠ [] := same ▸ paid
  have considered : (v.withResults results).consideredResults = v.consideredResults := by
    rw [consideredResults_eq_ownResults paid', same, consideredResults_eq_ownResults paid]
  have found : (v.withResults results).findPayload data = v.findPayload data := by
    simp only [findPayload, readable, bind, Except.bind, find_withResults considered exchange]
  have payload' : (v.withResults results).transaction.payload? = some data := payload
  unfold classified
  rw [if_pos (hasContractMarks_of_ownResults paid),
    if_pos (hasContractMarks_of_ownResults paid'), payload, payload']
  simp only [found]
  rfl

end Viewpoint

/-- Results that are addressed to others cannot change what an exchange means to an account
that is paid: whatever they are and wherever they stand, and even if they cannot be read, the
transaction has the same meaning as long as the account's own results are the same. -/
theorem classify_of_own_results {tx : Transaction} {data : String} {call : Call}
    {account : Option String} {one two : List ContractResult}
    (payload : tx.payload? = some data) (readable : Call.ofPayload data = .ok call)
    (exchange : call.IsExchange)
    (paid : (one.filter fun r => r.receiver = account.getD tx.sender) ≠ [])
    (same : (two.filter fun r => r.receiver = account.getD tx.sender) =
      one.filter fun r => r.receiver = account.getD tx.sender) (decimals : Decimals) :
    classify decimals account tx one = classify decimals account tx two := by
  let v : Viewpoint := ⟨tx, one, account.getD tx.sender, decimals⟩
  have classified : (v.withResults two).classified = v.classified :=
    Viewpoint.classified_withResults payload readable exchange paid same
  exact classified.symm

/-- A swap of ten units of a token. -/
def swapPayload : String :=
  "RVNEVFRyYW5zZmVyQDU0NGY0YjJkNjE2MjYzQDBhQDczNzc2MTcwNTQ2ZjZiNjU2ZTczNDY2OTc4NjU2NDQ5NmU3MDc1NzQ="

/-- A result that moves five units of another token to the account `a`. -/
def boughtResult : ContractResult :=
  { receiver := "a", data := some "RVNEVFRyYW5zZmVyQDU1NTM0NDJkNjE2MjYzQDA1" }

/-- A result for another account that would give three units of the sold token back. -/
def foreignResult : ContractResult :=
  { receiver := "b", data := some "RVNEVFRyYW5zZmVyQDU0NGY0YjJkNjE2MjYzQDAz" }

/-- A result for another account that begins like a transfer and is none. -/
def brokenResult : ContractResult :=
  { receiver := "b", data := some "RVNEVFRyYW5zZmVy" }

/-- Of the results of a swap two are for another account, and one of these cannot be read. -/
theorem classify_of_own_results_of_swap :
    let tx : Transaction := { sender := "a", data := some swapPayload }
    paymentsOf (fun _ => true) [brokenResult] = .error (.missingField "ESDTTransfer" 1) ∧
      ∀ decimals, classify decimals none tx [boughtResult] =
        classify decimals none tx [foreignResult, boughtResult, brokenResult] := by
  intro tx
  refine ⟨by decide +kernel, fun decimals => ?_⟩
  have payload : tx.payload? = some swapPayload := by decide +kernel
  have readable : Call.ofPayload swapPayload = .ok (.transfer "TOK-abc" ⟨10, by decide⟩
      (some ⟨"swapTokensFixedInput", []⟩)) := by decide +kernel
  exact classify_of_own_results payload readable (.transfer _ _ _) (by decide) (by decide) decimals

end ChainActivity
