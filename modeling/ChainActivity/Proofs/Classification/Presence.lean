import ChainActivity.Proofs.Classification.Sources
import ChainActivity.Proofs.Classification.Transfers
import ChainActivity.Proofs.Token.Collection

/-!
# Amounts that apply

An amount of the token without a name marks that none applies.  The effective amount of a
transaction always applies: it is an amount of the native token, a service fee, or an amount of
a token that some payment names.  What is left is a payment that names no token, whose amount
cannot be told from the mark.

## Main definitions

* `Payment.IsUnnamed` — whether a payment names no token.
* `movedPayments` — the payments of a transaction and of its results.

## Main statements

* `Payment.isAbsent_value_iff` — the amount of a payment applies if it names a token.
* `referencedTokens_eq` — the tokens that are named are those of the payments.
* `isAbsent_only_of_unnamed` — amounts apply, unless a payment names no token.
* `isAbsent_classify_of_unnamed` — a payment of five units that is taken for no amount.

## Design notes

Which of the amounts becomes the effective one is not looked at again: all that is used is that
it is drawn from the named tokens.
-/

namespace ChainActivity

/-! ### Payments without a token -/

/-- Whether a payment names no token: the name of the collection is empty, and no item of it is
meant. -/
def Payment.IsUnnamed (p : Payment) : Prop :=
  p.collection = "" ∧ p.nonce = 0

instance (p : Payment) : Decidable p.IsUnnamed :=
  inferInstanceAs (Decidable (_ ∧ _))

theorem Payment.token_eq_empty_iff {p : Payment} : p.token = "" ↔ p.IsUnnamed :=
  Token.identifier_eq_empty_iff

/-- The amount of a payment applies if the payment names a token, known or not. -/
theorem Payment.isAbsent_value_iff (decimals : Decimals) (p : Payment) :
    (p.value decimals).isAbsent = true ↔ p.IsUnnamed := by
  rw [TokenAmount.isAbsent, decide_eq_true_iff, value, TokenAmount.token_ofUnitsOrZero,
    token_eq_empty_iff]

/-! ### Named tokens -/

/-- The payments of the call that a transaction makes, if it makes one. -/
def Transaction.moved (tx : Transaction) : List Payment :=
  tx.payload?.elim [] Payload.payments

/-- The payments of a transaction and of its results, in order. -/
def movedPayments (tx : Transaction) (results : List ContractResult) : List Payment :=
  tx.moved ++ results.flatMap ContractResult.moved

theorem Payload.tokens_eq (data : String) :
    tokens data = (payments data).map Payment.token := by
  unfold tokens payments
  cases Call.ofPayload data <;> rfl

/-- The tokens of payloads that may be missing. -/
theorem flatMap_tokens_filterMap {α : Type} (payload : α → Option String) (xs : List α) :
    (xs.filterMap payload).flatMap Payload.tokens =
      (xs.flatMap fun x => (payload x).elim [] Payload.payments).map Payment.token := by
  induction xs with
  | nil => rfl
  | cons x rest ih =>
    rw [List.flatMap_cons, List.map_append, ← ih]
    cases carried : payload x with
    | none => rw [List.filterMap_cons_none carried, Option.elim_none, List.map_nil, List.nil_append]
    | some data =>
      rw [List.filterMap_cons_some carried, List.flatMap_cons, Payload.tokens_eq, Option.elim_some]

/-- The tokens that a transaction and its results name are those of their payments, behind the
native one. -/
theorem referencedTokens_eq (tx : Transaction) (results : List ContractResult) :
    referencedTokens tx results =
      Token.native :: (movedPayments tx results).map Payment.token := by
  have own : tx.payload?.toList.flatMap Payload.tokens = tx.moved.map Payment.token := by
    rw [Transaction.moved]
    cases tx.payload? with
    | none => rfl
    | some data => rw [Option.toList_some, List.flatMap_singleton, Payload.tokens_eq,
        Option.elim_some]
  rw [referencedTokens, movedPayments, List.flatMap_append, List.map_append, own,
    flatMap_tokens_filterMap]
  rfl

/-- A missing name is that of a payment. -/
theorem exists_unnamed_of_mem_referencedTokens {tx : Transaction} {results : List ContractResult}
    (named : "" ∈ referencedTokens tx results) :
    ∃ p ∈ movedPayments tx results, p.IsUnnamed := by
  rw [referencedTokens_eq, List.mem_cons] at named
  rcases named with native | named
  · exact absurd native (by decide)
  · obtain ⟨p, moved, token⟩ := List.mem_map.mp named
    exact ⟨p, moved, Payment.token_eq_empty_iff.mp token⟩

/-! ### Amounts -/

/-- An effective amount that does not apply is of the token without a name. -/
theorem Viewpoint.empty_mem_of_isAbsent (v : Viewpoint)
    (absent : v.classified.effective.isAbsent = true) : "" ∈ v.tokens := by
  have unnamed : v.classified.effective.token = "" := of_decide_eq_true absent
  rcases v.effective_token_mem with named | ⟨-, fee⟩
  · exact unnamed ▸ named
  · exact absurd (fee.symm.trans unnamed) (by decide)

/-- The effective amount of a transaction applies if each payment of the transaction and of its
results names a token.  Of the amounts that the results move, those do not apply whose payments
name no token, whatever the numbers of units are. -/
theorem isAbsent_only_of_unnamed (decimals : Decimals) (account : Option String)
    (tx : Transaction) (results : List ContractResult) :
    ((∀ p ∈ movedPayments tx results, ¬ p.IsUnnamed) →
        (classify decimals account tx results).effective.isAbsent = false) ∧
      ∀ amounts, transferAmounts decimals results = .ok amounts →
        List.Forall₂ (fun p a => TokenAmount.isAbsent a = true ↔ Payment.IsUnnamed p)
          (results.flatMap ContractResult.moved) amounts := by
  constructor
  · intro named
    rw [Bool.eq_false_iff]
    intro absent
    obtain ⟨p, moved, unnamed⟩ :=
      exists_unnamed_of_mem_referencedTokens (Viewpoint.empty_mem_of_isAbsent _ absent)
    exact named p moved unnamed
  · intro amounts read
    rw [transferAmounts_eq_ok decimals read, List.forall₂_map_right_iff, List.forall₂_same]
    exact fun p _ => p.isAbsent_value_iff decimals

/-- Transfers of five units of a token that is not known. -/
theorem isAbsent_only_of_unnamed_of_unknown :
    let data := "RVNEVFRyYW5zZmVyQDU1NTM0NDJkNjE2MjYzQDA1"
    let classified := classify (fun _ => none) none { data := some data } [{ data := some data }]
    classified.effective.isAbsent = false ∧
      ∃ a, transferAmounts (fun _ => none) [{ data := some data }] = .ok [a] ∧
        a.isAbsent = false := by
  intro data classified
  have readable : Call.ofPayload data = .ok (.transfer "USD-abc" ⟨5, by decide⟩ none) := by
    decide +kernel
  have denotes : ContractResult.Denotes { data := some data }
      (.transfer "USD-abc" ⟨5, by decide⟩ none) :=
    ⟨_, rfl, readable⟩
  have moved := ContractResult.moved_of_denotes denotes
  have own : Transaction.moved { data := some data } = [.plain "USD-abc" ⟨5, by decide⟩] := by
    decide +kernel
  obtain ⟨present, amounts⟩ := isAbsent_only_of_unnamed (fun _ => none) none
    { data := some data } [{ data := some data }]
  constructor
  · apply present
    rw [movedPayments, own, List.flatMap_singleton, moved]
    decide
  · have read := transferAmounts_of_denotes (fun _ => none) denotes
    refine ⟨_, read, ?_⟩
    have applies := amounts _ read
    rw [List.flatMap_singleton, moved] at applies
    cases applies with
    | cons first rest => exact Bool.eq_false_iff.mpr (mt first.mp (by decide))

/-- A payment of five units that is taken for no amount, by a transaction and as a result. -/
theorem isAbsent_classify_of_unnamed :
    let tx : Transaction := { data := some "RVNEVFRyYW5zZmVyQEAwNQ==" }
    let effective := (classify (fun _ => some 0) none tx []).effective
    Call.ofPayload "RVNEVFRyYW5zZmVyQEAwNQ==" = .ok (.transfer "" ⟨5, by decide⟩ none) ∧
      effective.isAbsent = true ∧ effective.units.toNat = 5 ∧
      ∃ a, transferAmounts (fun _ => some 0) [{ data := tx.data }] = .ok [a] ∧
        a.isAbsent = true ∧ a.units.toNat = 5 := by
  intro tx effective
  have readable :
      Call.ofPayload "RVNEVFRyYW5zZmVyQEAwNQ==" = .ok (.transfer "" ⟨5, by decide⟩ none) := by
    decide +kernel
  have denotes : ContractResult.Denotes { data := tx.data } (.transfer "" ⟨5, by decide⟩ none) :=
    ⟨_, rfl, readable⟩
  refine ⟨readable, by decide +kernel, by decide +kernel, _,
    transferAmounts_of_denotes _ denotes, ?_⟩
  decide +kernel

end ChainActivity
