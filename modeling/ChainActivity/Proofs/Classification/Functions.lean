import ChainActivity.Proofs.Classification.Receiver
import ChainActivity.Proofs.Classification.Sources

/-!
# The function that a classification reports

A classification reports the function that the call of a transaction invokes.  A call that
invokes nothing is reported by its own name, and a transaction for whose call nothing was found
reports no function at all.

## Main definitions

* `Call.reported` — the function of a call, or else its name.
* `Viewpoint.Reports` — a finding that carries a function, or none.

## Main statements

* `Viewpoint.reports_find` — what is found for a call carries the function of the call.
* `Viewpoint.function_classified` — the call of the payload is reported, or nothing is.
* `function_classify` — what a classification reports.

## Design notes

Each branch of a finding sets the function by itself, and a finding without one is completed
by the name of the call.  A branch that forgot the function would therefore still report a
name, but the wrong one.  So what is proved of a finding is which function it carries, also
where it carries none, and the name comes in only at the end.
-/

namespace ChainActivity

/-- The name under which a call is reported: the function that it invokes, or its own. -/
def Call.reported (call : Call) : String :=
  call.function?.getD call.name

namespace Viewpoint

variable (v : Viewpoint)

/-- Whether what is found carries a function, or carries none. -/
def Reports (function : Option String) (found : Except DecodeError Finding) : Prop :=
  Yields (fun finding => finding.function = function) found

/-- What is made of something that was read carries what it carries for every reading. -/
theorem reports_bind {α : Type} {read : Except DecodeError α}
    {make : α → Except DecodeError Finding} {function : Option String}
    (makes : ∀ a, Reports function (make a)) : Reports function (read >>= make) :=
  Yields.bind (p := fun _ => True) (fun _ _ => trivial) fun a _ => makes a

theorem reports_ok {finding : Finding} : Reports finding.function (.ok finding) :=
  yields_ok rfl

/-! ### Findings -/

theorem reports_findTransfer (payment : Payment) (function : Option String) :
    Reports function (v.findTransfer payment function) := by
  unfold findTransfer
  cases function with
  | none => exact reports_ok
  | some name =>
    dsimp only
    cases ContractFunction.ofName? name with
    | none => exact reports_ok
    | some f =>
      cases f
      case swapTokensFixedInput | swapTokensFixedOutput | removeLiquidity =>
        exact reports_bind fun _ => reports_ok
      all_goals exact reports_ok

theorem reports_findItemTransfer (payment : Payment) (function : Option String) :
    Reports function (v.findItemTransfer payment function) := by
  unfold findItemTransfer
  cases function with
  | none => exact reports_ok
  | some name =>
    dsimp only
    cases ContractFunction.ofName? name with
    | none => exact reports_ok
    | some f =>
      cases f
      case claimRewards | claimRewardsProxy | unlockAssets | exitFarm =>
        exact reports_bind fun _ => reports_ok
      all_goals exact reports_ok

theorem reports_findGeneric (invocation : Invocation) :
    Reports (some invocation.function) (v.findGeneric invocation) := by
  unfold findGeneric
  cases ContractFunction.ofName? invocation.function with
  | none => exact reports_ok
  | some f =>
    cases f
    case unDelegate | unStake | modifyTotalDelegationCap | changeServiceFee | wrapEgld =>
      exact reports_bind fun _ => reports_ok
    all_goals exact reports_ok

/-- What is found for a call carries the function that the call invokes, and none if it
invokes nothing. -/
theorem reports_find (call : Call) : Reports call.function? (v.find call) := by
  cases call with
  | transfer token amount called => exact v.reports_findTransfer _ _
  | itemTransfer payment destination called => exact v.reports_findItemTransfer payment _
  | multiTransfer destination payments called => exact reports_ok
  | generic invocation => exact v.reports_findGeneric invocation

/-- So does what is found for a payload. -/
theorem function_findPayload (data : String) :
    Yields (fun found => found.2.function = found.1.function?) (v.findPayload data) := by
  unfold findPayload
  cases Call.ofPayload data with
  | error e => exact yields_error e
  | ok call => exact (v.reports_find call).bind fun finding same => yields_ok same

/-- The call of the payload is reported, or nothing is: there are no marks of contracts, no
payload, or no meaning. -/
theorem function_classified (v : Viewpoint) :
    (v.hasContractMarks = true ∧ v.classified.activity ≠ .unknown ∧
        ∃ data call, v.transaction.payload? = some data ∧ Call.ofPayload data = .ok call ∧
          v.classified.function = some call.reported) ∨
      ((v.hasContractMarks = false ∨ v.transaction.payload? = none ∨
          v.classified.activity = .unknown) ∧
        v.classified.function = none) := by
  rcases v.classified_withFinding_or_asDeclared with
    ⟨data, call, finding, marked, payload, read, found, known, whole⟩ | ⟨activity, declared, why⟩
  · have same : finding.function = call.function? := v.function_findPayload data _ found
    have function : v.classified.function = some call.reported := by
      rw [Call.reported, ← same]
      exact congrArg ClassifiedTransaction.function whole
    refine .inl ⟨marked, ?_, data, call, payload, read, function⟩
    rw [whole]
    exact known
  · refine .inr ⟨?_, congrArg ClassifiedTransaction.function declared⟩
    rw [declared]
    exact why

end Viewpoint

/-- **Functions are reported uniformly.**  A classification reports no function exactly if
there are no marks of contracts, or no payload, or if it is unknown.  Otherwise the payload is
a call, and what is reported is the function that it invokes, or else its own name. -/
theorem function_classify (decimals : Decimals) (account : Option String) (tx : Transaction)
    (results : List ContractResult) :
    let v : Viewpoint := ⟨tx, results, account.getD tx.sender, decimals⟩
    let classified := classify decimals account tx results
    (classified.function = none ↔
        v.hasContractMarks = false ∨ tx.payload? = none ∨ classified.activity = .unknown) ∧
      ∀ name, classified.function = some name ↔
        v.hasContractMarks = true ∧ classified.activity ≠ .unknown ∧
          ∃ data call, tx.payload? = some data ∧ Call.ofPayload data = .ok call ∧
            call.reported = name := by
  intro v classified
  have cases : (v.hasContractMarks = true ∧ classified.activity ≠ .unknown ∧
      ∃ data call, tx.payload? = some data ∧ Call.ofPayload data = .ok call ∧
        classified.function = some call.reported) ∨
      ((v.hasContractMarks = false ∨ tx.payload? = none ∨ classified.activity = .unknown) ∧
        classified.function = none) := v.function_classified
  rcases cases with ⟨marked, known, data, call, payload, read, function⟩ | ⟨why, function⟩
  · refine ⟨?_, fun name => ?_⟩
    · simp [function, marked, payload, known]
    · simp [function, marked, payload, known, read]
  · refine ⟨⟨fun _ => why, fun _ => function⟩, fun name => ?_⟩
    rw [function]
    refine ⟨nofun, ?_⟩
    rintro ⟨marked, known, data, call, payload, -⟩
    rcases why with unmarked | missing | unknown
    · exact absurd (unmarked.symm.trans marked) Bool.false_ne_true
    · cases missing.symm.trans payload
    · exact absurd unknown known

end ChainActivity
