import ChainActivity.Proofs.Classification.Decimals
import Mathlib.Data.List.TakeWhile

/-!
# What cannot be read

Besides the payload of a transaction, a finding may need the transfers among the
results, or the first argument of the call.  This module says when these cannot be
read.

## Main definitions

* `ContractResult.IsBroken` — a result that begins like a transfer and is none.
* `Invocation.LacksAmount` — a call whose first argument is no amount.

## Main statements

* `error_paymentsOf_iff` — payments can be read unless one of the results is broken.
* `Viewpoint.error_firstAmount_iff` — an amount can be read unless it is lacking.
* `Viewpoint.classified_of_find`, `Viewpoint.exists_find_of_known` — what is found for the
  call of a payload that can be read is what the transaction means.

## Design notes

A blank payload counts as absent for results, although it is the empty text.  That
makes no difference, for the empty text does not begin like a transfer; so `IsBroken`
can speak of the payload as it is.
-/

namespace ChainActivity

/-- Only a failure can follow from a failure, where everything else succeeds. -/
theorem error_map_iff {ε α β : Type} {read : Except ε α} (f : α → β) :
    (∃ e, read.map f = .error e) ↔ ∃ e, read = .error e := by
  cases read <;> simp [Except.map]

/-! ### Results -/

/-- A result that begins like a transfer of tokens and is none. -/
def ContractResult.IsBroken (r : ContractResult) : Prop :=
  ∃ data text e, r.data = some data ∧ Payload.text data = .ok text ∧
    Call.isTransferText text = true ∧ Call.ofText text = .error e

/-- A blank payload is the empty text. -/
theorem Payload.text_of_allBlank {data : String} (blank : allBlank data = true) :
    Payload.text data = .ok "" := by
  have trimmed : trim data.toList = [] := by
    rw [trim, List.dropWhile_eq_nil_iff.mpr (List.all_eq_true.mp blank)]
    rfl
  rw [Payload.text, trimmed]
  rfl

/-- The text of a result that begins like a transfer is the text of its payload. -/
theorem ContractResult.transferText?_eq_some_iff {r : ContractResult} {text : String} :
    r.transferText? = some text ↔
      ∃ data, r.data = some data ∧ Payload.text data = .ok text ∧
        Call.isTransferText text = true := by
  constructor
  · intro transfer
    obtain ⟨data, declared, written⟩ := data_of_transferText? transfer
    rw [transferText?, Option.filter_eq_some_iff] at transfer
    exact ⟨data, declared, written, transfer.2⟩
  · rintro ⟨data, declared, written, begins⟩
    rw [transferText?, Option.filter_eq_some_iff, Option.bind_eq_some_iff]
    refine ⟨⟨data, ?_, by rw [written]; rfl⟩, begins⟩
    rw [payload?, Option.filter_eq_some_iff]
    refine ⟨declared, ?_⟩
    -- a blank payload would be the empty text, which begins like no transfer
    rcases blank : allBlank data with _ | _
    · rfl
    · rw [Payload.text_of_allBlank blank] at written
      obtain rfl := Except.ok.inj written
      exact absurd begins (by decide)

/-- The payments of a result can be read unless it is broken. -/
theorem ContractResult.error_payments_iff (keep : Call → Bool) (r : ContractResult) :
    (∃ e, r.payments keep = .error e) ↔ r.IsBroken := by
  have broken : r.IsBroken ↔ ∃ text e, r.transferText? = some text ∧ Call.ofText text = .error e := by
    simp only [transferText?_eq_some_iff]
    constructor
    · rintro ⟨data, text, e, declared, written, begins, unread⟩
      exact ⟨text, e, ⟨data, declared, written, begins⟩, unread⟩
    · rintro ⟨text, e, ⟨data, declared, written, begins⟩, unread⟩
      exact ⟨data, text, e, declared, written, begins, unread⟩
  rw [broken, payments]
  rcases r.transferText? with _ | text
  · simp
  · rcases read : Call.ofText text with e | call <;> simp [read]

/-- The payments of results can be read unless one of them is broken. -/
theorem error_paymentsOf_iff (keep : Call → Bool) (results : List ContractResult) :
    (∃ e, paymentsOf keep results = .error e) ↔ ∃ r ∈ results, r.IsBroken := by
  induction results with
  | nil => simp [paymentsOf]
  | cons r rest ih =>
    have apart : (∃ s ∈ r :: rest, s.IsBroken) ↔
        (∃ e, r.payments keep = .error e) ∨ ∃ e, paymentsOf keep rest = .error e := by
      rw [r.error_payments_iff keep, ih]
      simp
    rw [apart, paymentsOf]
    rcases first : r.payments keep with e | ps
    · exact ⟨fun _ => .inl ⟨e, rfl⟩, fun _ => ⟨e, rfl⟩⟩
    · rcases others : paymentsOf keep rest with e | qs
      · exact ⟨fun _ => .inr ⟨e, rfl⟩, fun _ => ⟨e, rfl⟩⟩
      · simp [bind, Except.bind]

/-- So can their amounts. -/
theorem error_transferAmounts_iff (decimals : Decimals) (results : List ContractResult) :
    (∃ e, transferAmounts decimals results = .error e) ↔ ∃ r ∈ results, r.IsBroken := by
  rw [transferAmounts, error_map_iff, error_paymentsOf_iff]

namespace Viewpoint

/-- So can the amounts of plain tokens among the results considered. -/
theorem error_plainTransferAmounts_iff (v : Viewpoint) :
    (∃ e, v.plainTransferAmounts = .error e) ↔ ∃ r ∈ v.consideredResults, r.IsBroken := by
  rw [plainTransferAmounts, error_map_iff, error_paymentsOf_iff]

end Viewpoint

/-! ### Arguments -/

/-- A call whose first argument is no amount in hexadecimal digits, or that has none. -/
def Invocation.LacksAmount (invocation : Invocation) : Prop :=
  ∀ term amount, invocation.args[0]? = some term → Amount.ofText 16 term ≠ .ok amount

/-- The first argument can be read as an amount unless it lacks one. -/
theorem Viewpoint.error_firstAmount_iff (invocation : Invocation) :
    (∃ e, firstAmount invocation = .error e) ↔ invocation.LacksAmount := by
  obtain ⟨function, args⟩ := invocation
  rw [firstAmount, Invocation.LacksAmount]
  cases args with
  | nil => simp
  | cons term rest =>
    simp only [Term.amount]
    rcases read : Amount.ofText 16 term with e | amount
    · refine ⟨fun _ other amount first => ?_, fun _ => ⟨_, rfl⟩⟩
      obtain rfl := Option.some.inj first
      rw [read]
      exact nofun
    · exact ⟨nofun, fun lacks => absurd read (lacks term amount rfl)⟩

/-! ### Payloads -/

namespace Viewpoint

variable {v : Viewpoint} {data : String} {call : Call}

/-- Results are a mark of contracts. -/
theorem hasContractMarks_of_results (present : v.results ≠ []) : v.hasContractMarks = true := by
  rw [hasContractMarks, List.isEmpty_eq_false_iff.mpr present]
  simp

/-- A transaction that contracts took part in means what is found for its call. -/
theorem classified_of_find {finding : Finding} (marked : v.hasContractMarks = true)
    (payload : v.transaction.payload? = some data) (readable : Call.ofPayload data = .ok call)
    (found : v.find call = .ok finding) : v.classified = v.withFinding call finding := by
  have whole : v.findPayload data = .ok (call, finding) := by
    simp only [findPayload, readable, bind, Except.bind, found]
  rw [classified, if_pos marked, payload]
  simp only [whole]

/-- Something is found for the call, if the activity is known. -/
theorem exists_find_of_known (marked : v.hasContractMarks = true)
    (payload : v.transaction.payload? = some data) (readable : Call.ofPayload data = .ok call)
    (known : v.classified.activity ≠ .unknown) :
    ∃ finding, v.find call = .ok finding ∧ v.classified = v.withFinding call finding := by
  cases found : v.find call with
  | ok finding => exact ⟨finding, rfl, classified_of_find marked payload readable found⟩
  | error e =>
    have failed : v.findPayload data = .error e := by
      simp only [findPayload, readable, bind, Except.bind, found]
    refine absurd ?_ known
    rw [classified, if_pos marked, payload]
    simp only [failed]
    rfl

end Viewpoint

end ChainActivity
