import ChainActivity.Proofs.Classification.DecisionTable

/-!
# The receiver that an account sees

A classified transaction is the transaction as it was given, but for its receiver: a
sender sees the destination that the call names, where there is one.

## Main definitions

* `Viewpoint.Redirects` — a destination takes the place of the receiver.
* `Viewpoint.withReceiver` — the same view of a transaction with another receiver.

## Main statements

* `Viewpoint.classified_redirected` — which of the two the receiver is.
* `Viewpoint.find_withReceiver` — what is found does not depend on the receiver.
* `classify_receiver` — only the receiver changes, when it does, and that classifying
  the result again changes nothing.

## Design notes

That classifying twice is classifying once needs two facts: nothing that is looked at
depends on the receiver, and the receiver that takes the place of another is not itself
replaced.  The second is `Viewpoint.receiver_withReceiver`.
-/

namespace ChainActivity

/-- A call names a destination exactly if it moves an item or several tokens there. -/
theorem Call.destination?_eq_some_iff {call : Call} {destination : Address} :
    call.destination? = some destination ↔
      (∃ payment called, call = .itemTransfer payment destination called) ∨
        ∃ payments called, call = .multiTransfer destination payments called := by
  cases call <;> simp [destination?]

namespace Viewpoint

/-- Whether a destination takes the place of the receiver: contracts took part in the
transaction, the account sent it, its call has a meaning, and moves an item or several
tokens to that destination. -/
structure Redirects (v : Viewpoint) (destination : Address) : Prop where
  marked : v.hasContractMarks = true
  sent : v.transaction.sender = v.account
  known : v.classified.activity ≠ .unknown
  named : ∃ data call, v.transaction.payload? = some data ∧ Call.ofPayload data = .ok call ∧
    ((∃ payment called, call = .itemTransfer payment destination called) ∨
      ∃ payments called, call = .multiTransfer destination payments called)

variable {v : Viewpoint}

theorem isSender_iff : v.isSender = true ↔ v.transaction.sender = v.account :=
  decide_eq_true_iff

/-- The receiver is the one that was declared, or the destination that a sender's call
names. -/
theorem receiver_cases (v : Viewpoint) (call : Call) :
    (v.receiver call = v.transaction.receiver ∧
        ∀ destination, call.destination? = some destination → v.transaction.sender ≠ v.account) ∨
      ∃ destination, v.receiver call = destination.toText ∧
        call.destination? = some destination ∧ v.transaction.sender = v.account := by
  rw [receiver]
  rcases named : call.destination? with _ | destination
  · exact .inl ⟨rfl, fun _ absurd => nomatch absurd⟩
  · by_cases sent : v.transaction.sender = v.account
    · exact .inr ⟨destination, if_pos (isSender_iff.mpr sent), rfl, sent⟩
    · exact .inl ⟨if_neg fun isSender => sent (isSender_iff.mp isSender), fun _ _ => sent⟩

/-- What a transaction means was found for its call, or the transaction is as it was
declared. -/
theorem classified_withFinding_or (v : Viewpoint) :
    (∃ data call finding, v.hasContractMarks = true ∧ v.transaction.payload? = some data ∧
        Call.ofPayload data = .ok call ∧ v.findPayload data = .ok (call, finding) ∧
        finding.activity ≠ .unknown ∧ v.classified = v.withFinding call finding) ∨
      (v.classified.transaction = v.transaction ∧ ∀ destination, ¬ v.Redirects destination) := by
  rcases v.classified_withFinding_or_asDeclared with found | ⟨activity, declared, why⟩
  · exact .inl found
  · refine .inr ⟨congrArg ClassifiedTransaction.transaction declared, ?_⟩
    rintro destination ⟨marked, -, known, data, call, payload, -⟩
    rcases why with unmarked | missing | rfl
    · exact Bool.false_ne_true (unmarked.symm.trans marked)
    · cases missing.symm.trans payload
    · exact known (congrArg ClassifiedTransaction.activity declared)

/-- The receiver is the destination that takes its place, or the one that was declared
if there is none. -/
theorem classified_redirected (v : Viewpoint) :
    (v.classified.transaction = v.transaction ∧ ∀ destination, ¬ v.Redirects destination) ∨
      ∃ destination, v.Redirects destination ∧
        v.classified.transaction = { v.transaction with receiver := destination.toText } ∧
        ∀ other, v.Redirects other → other = destination := by
  rcases v.classified_withFinding_or with
    ⟨data, call, finding, marked, payload, read, -, known, whole⟩ | unchanged
  · -- any destination is that of the one call that the payload is
    have ofCall : ∀ other, v.Redirects other → call.destination? = some other := by
      intro other redirects
      obtain ⟨data', call', present, same, moves⟩ := redirects.named
      obtain rfl := Option.some.inj (payload.symm.trans present)
      obtain rfl := Except.ok.inj (read.symm.trans same)
      exact Call.destination?_eq_some_iff.mpr moves
    have transaction : v.classified.transaction =
        { v.transaction with receiver := v.receiver call } :=
      congrArg ClassifiedTransaction.transaction whole
    rcases v.receiver_cases call with ⟨same, others⟩ | ⟨destination, named, moves, sent⟩
    · refine .inl ⟨?_, fun other redirects => others other (ofCall other redirects) redirects.sent⟩
      rw [transaction, same]
    · refine .inr ⟨destination, ⟨marked, sent, ?_, data, call, payload, read, ?_⟩, ?_, ?_⟩
      · rw [whole]
        exact known
      · exact Call.destination?_eq_some_iff.mp moves
      · rw [transaction, named]
      · exact fun other redirects => Option.some.inj ((ofCall other redirects).symm.trans moves)
  · exact .inl unchanged

/-! ### Another receiver -/

/-- The same view of a transaction with another receiver. -/
def withReceiver (v : Viewpoint) (receiver : String) : Viewpoint :=
  { v with transaction := { v.transaction with receiver } }

/-- What is found for a call does not depend on the receiver. -/
theorem find_withReceiver (v : Viewpoint) (receiver : String) (call : Call) :
    (v.withReceiver receiver).find call = v.find call := by
  cases call <;> rfl

/-- Nor does what is found for a payload. -/
theorem findPayload_withReceiver (v : Viewpoint) (receiver data : String) :
    (v.withReceiver receiver).findPayload data = v.findPayload data := by
  rw [findPayload, findPayload]
  simp only [find_withReceiver]

/-- The receiver that an account sees is still seen when it has been put into the
transaction. -/
theorem receiver_withReceiver (v : Viewpoint) (call : Call) :
    (v.withReceiver (v.receiver call)).receiver call = v.receiver call := by
  rcases v.receiver_cases call with ⟨same, -⟩ | ⟨destination, named, moves, sent⟩
  · have unchanged : v.withReceiver (v.receiver call) = v := by
      rw [same]
      rfl
    rw [unchanged]
  · have sender : (v.withReceiver (v.receiver call)).isSender = true := isSender_iff.mpr sent
    rw [named] at sender ⊢
    simp only [receiver, moves, sender, if_true]

/-- Classifying the transaction with the receiver that has been found gives the same
meaning. -/
theorem classified_withReceiver {data : String} {call : Call} {finding : Finding}
    (marked : v.hasContractMarks = true) (payload : v.transaction.payload? = some data)
    (found : v.findPayload data = .ok (call, finding)) :
    (v.withReceiver (v.receiver call)).classified = v.withFinding call finding := by
  have marked' : (v.withReceiver (v.receiver call)).hasContractMarks = true := marked
  have payload' : (v.withReceiver (v.receiver call)).transaction.payload? = some data := payload
  have found' : (v.withReceiver (v.receiver call)).findPayload data = .ok (call, finding) :=
    (v.findPayload_withReceiver _ data).trans found
  simp only [classified, marked', payload', found', if_true, withFinding, receiver_withReceiver]
  rfl

end Viewpoint

/-- A classified transaction is the given one in everything but its receiver.  The
receiver is the destination of a sender's call, where there is one, and otherwise the
one that was given.  Classifying the result again gives the same. -/
theorem classify_receiver (decimals : Decimals) (account : Option String) (tx : Transaction)
    (results : List ContractResult) :
    let v : Viewpoint := ⟨tx, results, account.getD tx.sender, decimals⟩
    let classified := classify decimals account tx results
    classified.transaction = { tx with receiver := classified.transaction.receiver } ∧
      (∀ destination, v.Redirects destination →
        classified.transaction.receiver = destination.toText) ∧
      (classified.transaction.receiver ≠ tx.receiver →
        ∃ destination, v.Redirects destination ∧
          classified.transaction.receiver = destination.toText) ∧
      classify decimals account classified.transaction results = classified := by
  intro v classified
  have whole : classified.transaction = v.classified.transaction := rfl
  refine ⟨?_, ?_, ?_, ?_⟩
  · rcases v.classified_redirected with ⟨same, -⟩ | ⟨destination, -, changed, -⟩
    · rw [whole, same]
    · rw [whole, changed]
  · intro destination redirects
    rcases v.classified_redirected with ⟨-, never⟩ | ⟨other, -, changed, unique⟩
    · exact absurd redirects (never destination)
    · rw [whole, changed, unique destination redirects]
  · intro differs
    rcases v.classified_redirected with ⟨same, -⟩ | ⟨destination, redirects, changed, -⟩
    · exact absurd (congrArg Transaction.receiver same) differs
    · exact ⟨destination, redirects, congrArg Transaction.receiver changed⟩
  · rcases v.classified_withFinding_or with
      ⟨data, call, finding, marked, payload, -, found, -, same⟩ | ⟨same, -⟩
    · have again : classify decimals account (v.withFinding call finding).transaction results =
          (v.withReceiver (v.receiver call)).classified := rfl
      change classify decimals account v.classified.transaction results = v.classified
      rw [same, again]
      exact Viewpoint.classified_withReceiver marked payload found
    · rw [whole, same]

end ChainActivity
