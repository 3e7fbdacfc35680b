import ChainActivity.Proofs.Call.RoundTrip
import ChainActivity.Proofs.Classification.Transfers
import ChainActivity.Proofs.Token.Collection

/-!
# Rewards of items

An account that claims what an item has earned is moved a reward, and an item of the same
collection that takes the place of the old one.  The two are told apart by their collections.
A moved token is only known by its identifier then, and the collection is what the identifier
shows; this is the collection of the payment if that has one dash, as those of a chain have.

## Main definitions

* `Invocation.IsClaim` — the functions that claim what an item has earned.
* `Payment.firstValue` — the amount of the first payment of some kind.

## Main statements

* `Viewpoint.findItemTransfer_of_claim_eq_ok` — what is found for a claim.
* `activity_classify_of_claim` — it is found if all results can be read.
* `classify_of_claim` — the reward and the new position.
* `classify_claim_ne_position` — a position that is taken for a reward.

## Design notes

Both amounts are searched for among all payments of the results, each by the first that fits.
So the searches are compared payment by payment, by the conditions that they put on one, and
nothing has to be known about the order.
-/

namespace ChainActivity

/-- The functions that claim what an item has earned. -/
def Invocation.IsClaim (invocation : Invocation) : Prop :=
  invocation.function ∈ ["claimRewards", "claimRewardsProxy", "unlockAssets"]

/-- The amount of the first payment that satisfies a condition, or another one if there is
none. -/
def Payment.firstValue (decimals : Decimals) (ps : List Payment) (condition : Payment → Bool)
    (default : TokenAmount) : TokenAmount :=
  ((ps.find? condition).map (Payment.value decimals)).getD default

namespace Payment

variable {decimals : Decimals} {ps : List Payment}

/-- Conditions that say the same of each payment find the same. -/
theorem firstValue_congr {one two : Payment → Bool} (same : ∀ p ∈ ps, one p = two p)
    (default : TokenAmount) :
    firstValue decimals ps one default = firstValue decimals ps two default := by
  have found : ps.find? one = ps.find? two := by
    rw [← List.head?_filter, ← List.head?_filter, List.filter_congr same]
  rw [firstValue, firstValue, found]

/-- Whether the amount of a payment is of a collection is seen from the identifier. -/
theorem isOfCollection_value (collection : String) (p : Payment) :
    Viewpoint.isOfCollection collection (p.value decimals) =
      decide (Token.collection p.token = collection) := by
  rw [Viewpoint.isOfCollection, value, TokenAmount.token_ofUnitsOrZero]

/-- A search among amounts is one among payments. -/
theorem find_map_value (condition : TokenAmount → Bool) (default : TokenAmount) :
    ((ps.map (value decimals)).find? condition).getD default =
      firstValue decimals ps (fun p => condition (p.value decimals)) default := by
  rw [List.find?_map]
  rfl

end Payment

/-- What is found for a claim, once it is known what the results move. -/
theorem Viewpoint.findItemTransfer_of_claim (v : Viewpoint) (claimed : Payment)
    {invocation : Invocation} (claims : invocation.IsClaim) :
    v.findItemTransfer claimed (some invocation.function) =
      (transferAmounts v.decimals v.results).bind fun amounts =>
        .ok ⟨.claim,
          (amounts.find? fun a => !isOfCollection claimed.collection a).getD
            (claimed.value v.decimals),
          (amounts.find? (isOfCollection claimed.collection)).getD .absent,
          some invocation.function⟩ := by
  have meanings : ContractFunction.ofName? "claimRewards" = some .claimRewards ∧
      ContractFunction.ofName? "claimRewardsProxy" = some .claimRewardsProxy ∧
      ContractFunction.ofName? "unlockAssets" = some .unlockAssets := by decide
  obtain ⟨rewards, proxy, assets⟩ := meanings
  simp only [Invocation.IsClaim, List.mem_cons, List.not_mem_nil, or_false] at claims
  rcases claims with named | named | named
  · simp only [findItemTransfer, named, rewards]
    rfl
  · simp only [findItemTransfer, named, proxy]
    rfl
  · simp only [findItemTransfer, named, assets]
    rfl

/-- If all that the results move can be read, what is found are a payment whose identifier
shows another collection, and one whose identifier shows the claimed one. -/
theorem Viewpoint.findItemTransfer_of_claim_eq_ok (v : Viewpoint) (claimed : Payment)
    {invocation : Invocation} (claims : invocation.IsClaim) {finding : Finding}
    (found : v.findItemTransfer claimed (some invocation.function) = .ok finding) :
    let moved := v.results.flatMap ContractResult.moved
    finding = ⟨.claim,
      Payment.firstValue v.decimals moved
        (fun p => Token.collection p.token ≠ claimed.collection) (claimed.value v.decimals),
      Payment.firstValue v.decimals moved
        (fun p => Token.collection p.token = claimed.collection) .absent,
      some invocation.function⟩ := by
  intro moved
  rw [v.findItemTransfer_of_claim claimed claims] at found
  cases read : transferAmounts v.decimals v.results with
  | error e =>
    rw [read] at found
    cases found
  | ok amounts =>
    rw [read] at found
    obtain rfl := Except.ok.inj found
    rw [transferAmounts_eq_ok v.decimals read, Payment.find_map_value, Payment.find_map_value]
    have outside : (fun p : Payment => !isOfCollection claimed.collection (p.value v.decimals)) =
        fun p => decide (Token.collection p.token ≠ claimed.collection) := by
      funext p
      rw [Payment.isOfCollection_value, decide_not]
    have inside : (fun p : Payment => isOfCollection claimed.collection (p.value v.decimals)) =
        fun p => decide (Token.collection p.token = claimed.collection) :=
      funext fun p => Payment.isOfCollection_value _ p
    rw [outside, inside]

/-- A claim has a meaning unless one of the results begins like a transfer and is none. -/
theorem activity_classify_of_claim (decimals : Decimals) (account : Option String)
    {tx : Transaction} {results : List ContractResult} {data : String} {claimed : Payment}
    {destination : Address} {invocation : Invocation} (payload : tx.payload? = some data)
    (readable : Call.ofPayload data = .ok (.itemTransfer claimed destination (some invocation)))
    (claims : invocation.IsClaim) (sound : ∀ r ∈ results, ¬ r.IsBroken) :
    (classify decimals account tx results).activity = .claim := by
  let v : Viewpoint := ⟨tx, results, account.getD tx.sender, decimals⟩
  have marked : v.hasContractMarks = true :=
    Viewpoint.hasContractMarks_of_mem_payments payload readable (List.mem_singleton.mpr rfl)
  cases read : transferAmounts decimals results with
  | error e =>
    obtain ⟨r, member, broken⟩ := (error_transferAmounts_iff decimals results).mp ⟨e, read⟩
    exact absurd broken (sound r member)
  | ok amounts =>
    have found := v.findItemTransfer_of_claim claimed claims
    rw [show transferAmounts v.decimals v.results = _ from read] at found
    exact congrArg ClassifiedTransaction.activity
      (Viewpoint.classified_of_find marked payload readable found)

/-- A claim that has a meaning finds a reward and a position by what identifiers show. -/
theorem amounts_classify_of_claim (decimals : Decimals) (account : Option String)
    {tx : Transaction} {results : List ContractResult} {data : String} {claimed : Payment}
    {destination : Address} {invocation : Invocation} (payload : tx.payload? = some data)
    (readable : Call.ofPayload data = .ok (.itemTransfer claimed destination (some invocation)))
    (claims : invocation.IsClaim)
    (known : (classify decimals account tx results).activity ≠ .unknown) :
    let classified := classify decimals account tx results
    let moved := results.flatMap ContractResult.moved
    classified.activity = .claim ∧
      classified.effective = Payment.firstValue decimals moved
        (fun p => Token.collection p.token ≠ claimed.collection) (claimed.value decimals) ∧
      classified.other = Payment.firstValue decimals moved
        (fun p => Token.collection p.token = claimed.collection) .absent := by
  intro classified moved
  let v : Viewpoint := ⟨tx, results, account.getD tx.sender, decimals⟩
  have marked : v.hasContractMarks = true :=
    Viewpoint.hasContractMarks_of_mem_payments payload readable (List.mem_singleton.mpr rfl)
  obtain ⟨finding, found, whole⟩ : ∃ finding,
      v.findItemTransfer claimed (some invocation.function) = .ok finding ∧
        classified = v.withFinding _ finding :=
    Viewpoint.exists_find_of_known marked payload readable known
  obtain rfl := v.findItemTransfer_of_claim_eq_ok claimed claims found
  exact ⟨congrArg ClassifiedTransaction.activity whole,
    congrArg ClassifiedTransaction.effective whole, congrArg ClassifiedTransaction.other whole⟩

/-- A claim that has a meaning finds a reward and a position among all that the results move:
the position is the first payment whose identifier shows the claimed collection, or none, and
the reward is the first whose identifier shows another one, or the claimed item itself.  If
the collections that are moved have one dash, or none in plain tokens, these are the first
payment in the claimed collection and the first in another one. -/
theorem classify_of_claim (decimals : Decimals) (account : Option String) {tx : Transaction}
    {results : List ContractResult} {data : String} {claimed : Payment} {destination : Address}
    {invocation : Invocation} (payload : tx.payload? = some data)
    (readable : Call.ofPayload data = .ok (.itemTransfer claimed destination (some invocation)))
    (claims : invocation.IsClaim)
    (known : (classify decimals account tx results).activity ≠ .unknown) :
    let classified := classify decimals account tx results
    let moved := results.flatMap ContractResult.moved
    classified.activity = .claim ∧
      classified.effective = Payment.firstValue decimals moved
        (fun p => Token.collection p.token ≠ claimed.collection) (claimed.value decimals) ∧
      classified.other = Payment.firstValue decimals moved
        (fun p => Token.collection p.token = claimed.collection) .absent ∧
      ((∀ p ∈ moved, p.collection.toList.count '-' = 1 ∨
          p.nonce = 0 ∧ p.collection.toList.count '-' = 0) →
        classified.effective = Payment.firstValue decimals moved
            (fun p => p.collection ≠ claimed.collection) (claimed.value decimals) ∧
          classified.other = Payment.firstValue decimals moved
            (fun p => p.collection = claimed.collection) .absent) := by
  intro classified moved
  obtain ⟨activity, effective, other⟩ : classified.activity = .claim ∧ _ ∧ _ :=
    amounts_classify_of_claim decimals account payload readable claims known
  refine ⟨activity, effective, other, fun regular => ?_⟩
  have shown : ∀ p ∈ moved, Token.collection p.token = p.collection := fun p member =>
    (Token.collection_identifier_iff p.collection p.nonce).mpr (regular p member)
  constructor
  · rw [effective]
    exact Payment.firstValue_congr (fun p member => by rw [shown p member]) _
  · rw [other]
    exact Payment.firstValue_congr (fun p member => by rw [shown p member]) _

/-- The claim of what an item has earned. -/
def rewardClaim (claimed : Payment) : Call :=
  .itemTransfer claimed ⟨List.replicate 32 0, rfl⟩ (some ⟨"claimRewards", []⟩)

/-- A result that moves an item. -/
def itemResult (p : Payment) : ContractResult where
  data := some (Call.itemTransfer p ⟨List.replicate 32 0, rfl⟩ none).toPayload

theorem ofPayload_rewardClaim (claimed : Payment) :
    Call.ofPayload (rewardClaim claimed).toPayload = .ok (rewardClaim claimed) := by
  apply Call.ofPayload_toPayload
  rintro invocation ⟨⟩
  exact ⟨by decide, nofun⟩

theorem denotes_itemResult (p : Payment) :
    (itemResult p).Denotes (.itemTransfer p ⟨List.replicate 32 0, rfl⟩ none) :=
  ⟨_, rfl, Call.ofPayload_toPayload nofun⟩

/-- The claim of what five units of `FARM-abc123-0a` have earned: seven units of `FARM-abc123-0b`
take their place, and then nine units of `MEX-455c57` are moved. -/
theorem classify_of_claim_of_farm :
    let claim := rewardClaim ⟨"FARM-abc123", 10, ⟨5, by decide⟩⟩
    let position := itemResult ⟨"FARM-abc123", 11, ⟨7, by decide⟩⟩
    let reward : ContractResult :=
      { data := some (Call.transfer "MEX-455c57" ⟨9, by decide⟩ none).toPayload }
    let classified := classify (fun _ => some 18) none { data := some claim.toPayload }
      [position, reward]
    classified.activity = .claim ∧
      classified.effective = .of ⟨9, by decide⟩ 18 "MEX-455c57" ∧
      classified.other = .of ⟨7, by decide⟩ 18 "FARM-abc123-0b" := by
  intro claim position reward
  have readable := ofPayload_rewardClaim ⟨"FARM-abc123", 10, ⟨5, by decide⟩⟩
  have payload : ({ data := some claim.toPayload } : Transaction).payload? =
      some claim.toPayload :=
    Transaction.payload?_of_mem_payments rfl readable (.head _)
  have claims : Invocation.IsClaim ⟨"claimRewards", []⟩ := .head _
  have placed := denotes_itemResult ⟨"FARM-abc123", 11, ⟨7, by decide⟩⟩
  have earned : reward.Denotes (.transfer "MEX-455c57" ⟨9, by decide⟩ none) :=
    ⟨_, rfl, Call.ofPayload_toPayload nofun⟩
  have sound : ∀ r ∈ [position, reward], ¬ r.IsBroken := by
    simp [position, placed.not_isBroken, earned.not_isBroken]
  have known : (classify (fun _ => some 18) none { data := some claim.toPayload }
      [position, reward]).activity ≠ .unknown := by
    rw [activity_classify_of_claim _ _ payload readable claims sound]
    decide
  have moved : [position, reward].flatMap ContractResult.moved =
      [⟨"FARM-abc123", 11, ⟨7, by decide⟩⟩, .plain "MEX-455c57" ⟨9, by decide⟩] := by
    rw [List.flatMap_cons, List.flatMap_singleton, ContractResult.moved_of_denotes placed,
      ContractResult.moved_of_denotes earned]
    rfl
  obtain ⟨activity, -, -, regular⟩ := classify_of_claim _ _ payload readable claims known
  rw [moved] at regular
  obtain ⟨effective, other⟩ := regular (by decide)
  exact ⟨activity, effective, other⟩

/-- A position that is taken for a reward.  The identifier `FARM-02` of an item in the claimed
collection `FARM` could be that of a plain token. -/
theorem classify_claim_ne_position :
    let claimed : Payment := ⟨"FARM", 1, ⟨5, by decide⟩⟩
    let position : Payment := ⟨"FARM", 2, ⟨7, by decide⟩⟩
    let tx : Transaction := { data := some (rewardClaim claimed).toPayload }
    let classified := classify (fun _ => some 0) none tx [itemResult position]
    Call.ofPayload (rewardClaim claimed).toPayload = .ok (rewardClaim claimed) ∧
      [itemResult position].flatMap ContractResult.moved = [position] ∧
      position.collection = claimed.collection ∧
      classified.activity = .claim ∧
      classified.other.token ≠ position.token ∧
      classified.effective.token ≠ claimed.token := by
  intro claimed position tx
  have readable := ofPayload_rewardClaim claimed
  have payload : tx.payload? = some (rewardClaim claimed).toPayload :=
    Transaction.payload?_of_mem_payments rfl readable (.head _)
  have claims : Invocation.IsClaim ⟨"claimRewards", []⟩ := .head _
  have placed := denotes_itemResult position
  have sound : ∀ r ∈ [itemResult position], ¬ r.IsBroken := by
    simp [placed.not_isBroken]
  have activity := activity_classify_of_claim (fun _ => some 0) none payload readable claims sound
  have known : (classify (fun _ => some 0) none tx [itemResult position]).activity ≠ .unknown := by
    rw [activity]
    decide
  have moved : [itemResult position].flatMap ContractResult.moved = [position] := by
    rw [List.flatMap_singleton, ContractResult.moved_of_denotes placed]
    rfl
  obtain ⟨-, effective, other⟩ := amounts_classify_of_claim _ _ payload readable claims known
  rw [moved] at effective other
  refine ⟨readable, moved, rfl, activity, ?_, ?_⟩
  · rw [other]
    decide +kernel
  · rw [effective]
    decide +kernel

end ChainActivity
