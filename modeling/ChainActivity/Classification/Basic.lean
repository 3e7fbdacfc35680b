import ChainActivity.Call.Function
import ChainActivity.Classification.Transfers

/-!
# Classification

What a transaction means to an account: the kind of activity and the amounts that it
is about.  The meaning is taken from the call in the payload, from the function that
is called, and from the results.

## Main definitions

* `Viewpoint` — a transaction with its results, as one account sees it.
* `Finding` — a kind of activity with its amounts.
* `Viewpoint.findTransfer`, `findItemTransfer`, `findMultiTransfer`, `findGeneric` —
  the finding for each shape of a call.
* `classify` — a transaction with its meaning.

## Design notes

A payload that cannot be read, or whose meaning needs a part that cannot be read, is
no error: the transaction is of unknown kind and everything else about it is as it
was declared.
-/

namespace ChainActivity

/-- A transaction with its results, as one account sees it. -/
structure Viewpoint where
  transaction : Transaction
  results : List ContractResult
  /-- The account from whose side the transaction is seen. -/
  account : String
  decimals : Decimals

/-- A kind of activity with its amounts, and the function that was called if there is
one. -/
structure Finding where
  activity : Activity
  effective : TokenAmount
  other : TokenAmount := .absent
  function : Option String := none
  deriving Repr

/-- The token that stands for a share of a service fee. -/
def feeUnit : String := "%"

/-- The decimal places of a service fee. -/
def feeDecimals : UInt32 := 2

namespace Viewpoint

variable (v : Viewpoint)

/-- Whether the account sends the transaction. -/
def isSender : Bool :=
  v.transaction.sender = v.account

/-- Whether the protocol itself issued the transaction. -/
def isFromProtocol : Bool :=
  v.transaction.sender = metachain

/-- The kind of activity of a plain movement of value. -/
def direction : Activity :=
  if v.isSender then .send else .receive

/-- An amount of the native token, given in decimal digits. -/
def nativeAmount (text : String) : TokenAmount :=
  .ofDecimalOrZero v.decimals Token.native text

/-- The amount that the transaction itself declares. -/
def declared : TokenAmount :=
  v.nativeAmount v.transaction.value

/-- The results that are looked at for what the account got: those addressed to it,
or all if there are none. -/
def consideredResults : List ContractResult :=
  match v.results.filter (·.receiver = v.account) with
  | [] => v.results
  | own => own

/-- The amounts of plain tokens that the considered results move. -/
def plainTransferAmounts : Except DecodeError (List TokenAmount) :=
  (paymentsOf Call.isPlainTransfer v.consideredResults).map fun ps =>
    ps.map (Payment.value v.decimals)

/-- The native amount of the first plain result that satisfies a condition, or the
declared amount. -/
def plainResultAmount (condition : ContractResult → Bool) : TokenAmount :=
  match v.results.find? fun r => r.isPlain && condition r with
  | some r => v.nativeAmount r.value
  | none => v.declared

/-- Whether a result is addressed to the account. -/
def isPaidTo (r : ContractResult) : Bool :=
  r.receiver = v.account

/-- Whether a result is addressed to the account or caused by it. -/
def concerns (r : ContractResult) : Bool :=
  v.isPaidTo r || r.originalSender = some v.account

/-! ### Transfers of plain tokens -/

/-- What a swap sold, less what came back of it, and the first other amount that came
in return. -/
def netSwap (sold : TokenAmount) (outputs : List TokenAmount) : TokenAmount × TokenAmount :=
  outputs.foldl
    (fun (remaining, bought) output =>
      if output.token = sold.token then (remaining.sub output, bought)
      else if bought.isAbsent then (remaining, output)
      else (remaining, bought))
    (sold, .absent)

/-- The finding for a transfer of a plain token. -/
def findTransfer (payment : Payment) (function : Option String) :
    Except DecodeError Finding :=
  let amount := payment.value v.decimals
  match function with
  | none => .ok ⟨v.direction, amount, .absent, none⟩
  | some name =>
    match ContractFunction.ofName? name with
    | some .swapTokensFixedInput | some .swapTokensFixedOutput => do
      let (sold, bought) := netSwap amount (← v.plainTransferAmounts)
      .ok ⟨.swap, sold, bought, some name⟩
    | some .unwrapEgld =>
      .ok ⟨.unwrap, amount, .ofUnitsOrZero v.decimals Token.native payment.amount, some name⟩
    | some .removeLiquidity => do
      let amounts ← v.plainTransferAmounts
      .ok ⟨.exitPool, amounts.headD amount, (amounts.drop 1).headD .absent, some name⟩
    | _ => .ok ⟨.contractCall, amount, .absent, some name⟩

/-! ### Transfers of items -/

/-- Whether an amount is of an item of a collection. -/
def isOfCollection (collection : String) (amount : TokenAmount) : Bool :=
  Token.collection amount.token = collection

/-- The finding for a transfer of an item. -/
def findItemTransfer (payment : Payment) (function : Option String) :
    Except DecodeError Finding :=
  let amount := payment.value v.decimals
  match function with
  | none => .ok ⟨v.direction, amount, .absent, none⟩
  | some name =>
    match ContractFunction.ofName? name with
    | some .claimRewards | some .claimRewardsProxy | some .unlockAssets => do
      let amounts ← transferAmounts v.decimals v.results
      let reward := amounts.find? fun a => !isOfCollection payment.collection a
      let position := amounts.find? (isOfCollection payment.collection)
      .ok ⟨.claim, reward.getD amount, position.getD .absent, some name⟩
    | some .compoundRewards => .ok ⟨.compound, amount, .absent, some name⟩
    | some .exitFarm => do
      let amounts ← transferAmounts v.decimals v.results
      .ok ⟨.exitFarm, amounts.headD amount, (amounts.drop 1).headD .absent, some name⟩
    | _ => .ok ⟨.contractCall, amount, .absent, some name⟩

/-! ### Transfers of several tokens -/

/-- The finding for a transfer of several tokens. -/
def findMultiTransfer (payments : List Payment) (function : Option String) : Finding :=
  let amounts := payments.map (Payment.value v.decimals)
  let activity :=
    match function with
    | none => v.direction
    | some name =>
      match ContractFunction.ofName? name with
      | some .enterFarm => .enterFarm
      | some .addLiquidity => .enterPool
      | _ => .contractCall
  ⟨activity, amounts.headD v.declared, (amounts.drop 1).headD .absent, function⟩

/-! ### Other calls -/

/-- The name under which a missing argument of a call is reported. -/
def reportedName (function : String) : String :=
  match ContractFunction.ofName? function with
  | some f => f.name
  | none => "call"

/-- The first argument of a call, read as a number of units. -/
def firstAmount (invocation : Invocation) : Except DecodeError Amount :=
  match invocation.args with
  | [] => .error (.missingField (reportedName invocation.function) 1)
  | term :: _ => Term.amount term

/-- The finding for a call that moves no tokens. -/
def findGeneric (invocation : Invocation) : Except DecodeError Finding :=
  match ContractFunction.ofName? invocation.function with
  | some .delegate | some .stake =>
    .ok ⟨.delegate, v.declared, .absent, some invocation.function⟩
  | some .unDelegate | some .unStake => do
    let units ← firstAmount invocation
    let amount := .ofUnitsOrZero v.decimals Token.native units
    .ok ⟨.undelegate, amount, .absent, some invocation.function⟩
  | some .claimRewards =>
    .ok ⟨.claim, v.plainResultAmount v.concerns, .absent, some invocation.function⟩
  | some .reDelegateRewards =>
    .ok ⟨.compound, v.plainResultAmount v.concerns, .absent, some invocation.function⟩
  | some .withdraw | some .unBond =>
    .ok ⟨.withdraw, v.plainResultAmount v.isPaidTo, .absent, some invocation.function⟩
  | some .modifyTotalDelegationCap => do
    let units ← firstAmount invocation
    let amount := .ofUnitsOrZero v.decimals Token.native units
    .ok ⟨.modifyDelegationCap, amount, .absent, some invocation.function⟩
  | some .changeServiceFee => do
    let units ← firstAmount invocation
    .ok ⟨.changeServiceFee, .of units feeDecimals feeUnit, .absent, some invocation.function⟩
  | some .wrapEgld => do
    let amounts ← v.plainTransferAmounts
    .ok ⟨.wrap, v.declared, amounts.headD .absent, some invocation.function⟩
  | _ =>
    let activity := if v.isFromProtocol then .receiveValidationReward else .contractCall
    .ok ⟨activity, v.declared, .absent, some invocation.function⟩

/-! ### All calls -/

/-- The finding for a call. -/
def find (call : Call) : Except DecodeError Finding :=
  match call with
  | .transfer token amount _ => v.findTransfer (.plain token amount) call.function?
  | .itemTransfer payment _ _ => v.findItemTransfer payment call.function?
  | .multiTransfer _ payments _ => .ok (v.findMultiTransfer payments call.function?)
  | .generic invocation => v.findGeneric invocation

/-- The kind of activity of a transaction without payload that contracts took part
in. -/
def plainActivity : Activity :=
  if v.isFromProtocol then .receiveValidationReward else v.direction

/-- Whether the payload of the transaction begins like a transfer of tokens. -/
def hasTransferPayload : Bool :=
  match v.transaction.payload? with
  | none => false
  | some data =>
    match Payload.text data with
    | .ok text => Call.isTransferText text
    | .error _ => false

/-- Whether contracts took part in the transaction: it is marked as a call, it has
results, or its payload begins like a transfer of tokens. -/
def hasContractMarks : Bool :=
  v.transaction.isContractCall || !v.results.isEmpty || v.hasTransferPayload

/-- The transaction as it was declared, with a kind of activity. -/
def asDeclared (activity : Activity) : ClassifiedTransaction where
  transaction := v.transaction
  activity := activity
  function := none
  effective := v.declared
  other := .absent

/-- The receiver as the account sees it: a sender sees the destination that the call
names. -/
def receiver (call : Call) : String :=
  match call.destination? with
  | some destination => if v.isSender then destination.toText else v.transaction.receiver
  | none => v.transaction.receiver

/-- The transaction with what was found about its call.  A call that invokes nothing is
known by its own name. -/
def withFinding (call : Call) (finding : Finding) : ClassifiedTransaction where
  transaction := { v.transaction with receiver := v.receiver call }
  activity := finding.activity
  function := some (finding.function.getD call.name)
  effective := finding.effective
  other := finding.other

/-- The call of a payload and the finding for it. -/
def findPayload (data : String) : Except DecodeError (Call × Finding) := do
  let call ← Call.ofPayload data
  let finding ← v.find call
  .ok (call, finding)

/-- The transaction with its meaning. -/
def classified : ClassifiedTransaction :=
  if v.hasContractMarks then
    match v.transaction.payload? with
    | none => v.asDeclared v.plainActivity
    | some data =>
      match v.findPayload data with
      | .ok (call, finding) => v.withFinding call finding
      | .error _ => v.asDeclared .unknown
  else v.asDeclared v.direction

end Viewpoint

/-- A transaction with its meaning to an account; the sender, if none is given. -/
def classify (decimals : Decimals) (account : Option String) (tx : Transaction)
    (results : List ContractResult) : ClassifiedTransaction :=
  Viewpoint.classified ⟨tx, results, account.getD tx.sender, decimals⟩

end ChainActivity
