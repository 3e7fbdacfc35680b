import ChainActivity.Proofs.Classification.Unreadable

/-!
# Payouts of staked tokens

What an account is paid for its stake comes as a plain result, which moves native tokens and
has no payload.  The first such result for the account is the payout; all other results, with
whatever payloads, are passed over and not even read.

## Main definitions

* `Invocation.PaysRewards`, `Invocation.PaysStake` — the functions that pay out.
* `ContractResult.IsPayout` — whether a result pays an account for a call.
* `Viewpoint.payout` — the first payout, or the declared amount.

## Main statements

* `Viewpoint.findGeneric_of_payout` — what is found for a call that pays out.
* `classify_of_payout` — a transaction with such a call means its first payout, and no other
  result makes a difference.

## Design notes

Rewards may be credited to an agent of the account, such as a contract that stakes for it, so
they also count if the account has caused them.  Stake always goes back to its owner.
-/

namespace ChainActivity

namespace Invocation

/-- Whether a call pays out what a stake has earned. -/
def PaysRewards (invocation : Invocation) : Prop :=
  invocation.function = "claimRewards" ∨ invocation.function = "reDelegateRewards"

/-- Whether a call pays out the stake itself. -/
def PaysStake (invocation : Invocation) : Prop :=
  invocation.function = "withdraw" ∨ invocation.function = "unBond"

instance (invocation : Invocation) : Decidable invocation.PaysRewards :=
  inferInstanceAs (Decidable (_ ∨ _))

/-- A call does not pay out both. -/
theorem PaysStake.not_paysRewards {invocation : Invocation} (pays : invocation.PaysStake) :
    ¬ invocation.PaysRewards := by
  rintro (rewards | rewards) <;> rcases pays with stake | stake <;>
    exact absurd (rewards.symm.trans stake) (by decide)

end Invocation

/-- Whether a result pays an account for a call: it has no payload, or only white space, and it
is addressed to the account, or caused by it if rewards are paid. -/
def ContractResult.IsPayout (invocation : Invocation) (account : String) (r : ContractResult) :
    Prop :=
  (∀ data ∈ r.data, allBlank data = true) ∧
    (r.receiver = account ∨ invocation.PaysRewards ∧ r.originalSender = some account)

instance (invocation : Invocation) (account : String) (r : ContractResult) :
    Decidable (r.IsPayout invocation account) :=
  inferInstanceAs (Decidable (_ ∧ _))

/-- A plain result has no payload, or only white space. -/
theorem ContractResult.isPlain_iff (r : ContractResult) :
    r.isPlain = true ↔ ∀ data ∈ r.data, allBlank data = true := by
  rw [isPlain, payload?, Option.isNone_iff_eq_none, Option.filter_eq_none_iff]
  simp

namespace Viewpoint

variable (v : Viewpoint) {invocation : Invocation}

/-- The amount of the first result that pays the account, or the declared amount. -/
def payout (invocation : Invocation) : TokenAmount :=
  v.nativeAmount (((v.results.find? fun r => r.IsPayout invocation v.account).map
    ContractResult.value).getD v.transaction.value)

/-- A search among plain results is one for payouts, if its condition says whom they are for. -/
theorem plainResultAmount_eq_payout {condition : ContractResult → Bool}
    (fits : ∀ r, condition r = true ↔
      r.receiver = v.account ∨ invocation.PaysRewards ∧ r.originalSender = some v.account) :
    v.plainResultAmount condition = v.payout invocation := by
  have same : (fun r : ContractResult => r.isPlain && condition r) =
      fun r => decide (r.IsPayout invocation v.account) := by
    funext r
    rw [Bool.eq_iff_iff, Bool.and_eq_true, decide_eq_true_iff, r.isPlain_iff, fits]
    rfl
  rw [plainResultAmount, payout, same]
  cases v.results.find? fun r => r.IsPayout invocation v.account <;> rfl

theorem plainResultAmount_concerns (pays : invocation.PaysRewards) :
    v.plainResultAmount v.concerns = v.payout invocation :=
  v.plainResultAmount_eq_payout fun r => by simp [concerns, isPaidTo, pays]

theorem plainResultAmount_isPaidTo (pays : invocation.PaysStake) :
    v.plainResultAmount v.isPaidTo = v.payout invocation :=
  v.plainResultAmount_eq_payout fun r => by simp [isPaidTo, pays.not_paysRewards]

/-- What is found for a call that pays out is the payout, whatever the results are. -/
theorem findGeneric_of_payout (pays : invocation.PaysRewards ∨ invocation.PaysStake) :
    ∃ activity, ∀ v : Viewpoint, v.findGeneric invocation =
      .ok ⟨activity, v.payout invocation, .absent, some invocation.function⟩ := by
  have meanings : ContractFunction.ofName? "claimRewards" = some .claimRewards ∧
      ContractFunction.ofName? "reDelegateRewards" = some .reDelegateRewards ∧
      ContractFunction.ofName? "withdraw" = some .withdraw ∧
      ContractFunction.ofName? "unBond" = some .unBond := by decide
  obtain ⟨claim, redelegate, withdraw, unbond⟩ := meanings
  rcases pays with rewards | stake
  · have named := rewards
    rcases named with named | named
    · refine ⟨.claim, fun v => ?_⟩
      simp only [findGeneric, named, claim, ← v.plainResultAmount_concerns rewards]
    · refine ⟨.compound, fun v => ?_⟩
      simp only [findGeneric, named, redelegate, ← v.plainResultAmount_concerns rewards]
  · have named := stake
    rcases named with named | named
    · refine ⟨.withdraw, fun v => ?_⟩
      simp only [findGeneric, named, withdraw, ← v.plainResultAmount_isPaidTo stake]
    · refine ⟨.withdraw, fun v => ?_⟩
      simp only [findGeneric, named, unbond, ← v.plainResultAmount_isPaidTo stake]

end Viewpoint

/-- A transaction whose call pays out means the native tokens of the first result that pays the
account, or the declared amount if there is none, and no other amount.  So results that pay the
account nothing may come and go, stand in any order, and have payloads that cannot be read: as
long as contracts take part at all, the transaction has the same meaning if the results that do
pay the account are the same. -/
theorem classify_of_payout (decimals : Decimals) (account : Option String) {tx : Transaction}
    {data : String} {invocation : Invocation} (payload : tx.payload? = some data)
    (readable : Call.ofPayload data = .ok (.generic invocation))
    (pays : invocation.PaysRewards ∨ invocation.PaysStake) :
    let seen := account.getD tx.sender
    (∀ results,
      (classify decimals account tx results).effective =
          .ofDecimalOrZero decimals Token.native
            (((results.find? fun r => r.IsPayout invocation seen).map ContractResult.value).getD
              tx.value) ∧
        (classify decimals account tx results).other = .absent) ∧
      ∀ one two : List ContractResult,
        Viewpoint.hasContractMarks ⟨tx, one, seen, decimals⟩ = true →
        Viewpoint.hasContractMarks ⟨tx, two, seen, decimals⟩ = true →
        (one.filter fun r => r.IsPayout invocation seen) =
          (two.filter fun r => r.IsPayout invocation seen) →
        classify decimals account tx one = classify decimals account tx two := by
  intro seen
  obtain ⟨activity, found⟩ := Viewpoint.findGeneric_of_payout pays
  let view (results : List ContractResult) : Viewpoint := ⟨tx, results, seen, decimals⟩
  have marked : ∀ results, (view results).hasContractMarks = true →
      classify decimals account tx results = (view results).withFinding (.generic invocation)
        ⟨activity, (view results).payout invocation, .absent, some invocation.function⟩ :=
    fun results marks => Viewpoint.classified_of_find marks payload readable (found _)
  constructor
  · intro results
    by_cases marks : (view results).hasContractMarks = true
    · rw [marked results marks]
      exact ⟨rfl, rfl⟩
    · -- without marks there are no results, and so no payout
      have silent : results = [] := by
        by_contra present
        exact marks (Viewpoint.hasContractMarks_of_results present)
      subst silent
      rw [classify, Viewpoint.classified, if_neg marks]
      exact ⟨rfl, rfl⟩
  · intro one two marksOne marksTwo same
    have first : (one.find? fun r => r.IsPayout invocation seen) =
        two.find? fun r => r.IsPayout invocation seen := by
      rw [← List.head?_filter, ← List.head?_filter, same]
    have paid : (view one).payout invocation = (view two).payout invocation := by
      simp only [Viewpoint.payout, view, first]
      rfl
    rw [marked one marksOne, marked two marksTwo, paid]
    rfl

/-- Of the results of a withdrawal one pays the account; the one before it is for another
account, and the last one begins like a transfer and is none. -/
theorem classify_of_payout_of_withdraw :
    let tx : Transaction := { sender := "a", data := some "d2l0aGRyYXc=" }
    let broken : ContractResult := { receiver := "a", data := some "RVNEVFRyYW5zZmVy" }
    let foreign : ContractResult := { receiver := "b", value := "3" }
    let payout : ContractResult := { receiver := "a", value := "5", data := some " " }
    ∀ decimals,
      classify decimals none tx [foreign, payout, broken] = classify decimals none tx [payout] ∧
      (classify decimals none tx [payout]).effective =
        .ofDecimalOrZero decimals Token.native "5" := by
  intro tx broken foreign payout decimals
  have payload : tx.payload? = some "d2l0aGRyYXc=" := by decide +kernel
  have readable : Call.ofPayload "d2l0aGRyYXc=" = .ok (.generic ⟨"withdraw", []⟩) := by
    decide +kernel
  obtain ⟨values, same⟩ := classify_of_payout decimals none payload readable (.inr (.inl rfl))
  exact ⟨same _ _ rfl rfl (by decide +kernel), (values [payout]).1⟩

end ChainActivity
