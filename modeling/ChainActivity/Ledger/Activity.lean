import ChainActivity.Ledger.Transaction
import ChainActivity.Token.Amount

/-!
# Activities

What a transaction means to an account.

## Main definitions

* `Activity` — the kinds of activity, with `Activity.name` and `Activity.ofName?`.
* `ClassifiedTransaction` — a transaction with its meaning.
-/

namespace ChainActivity

/-- The kinds of activity. -/
inductive Activity where
  | send
  | receive
  | swap
  | wrap
  | unwrap
  | enterPool
  | exitPool
  | enterFarm
  | exitFarm
  | claim
  | compound
  | delegate
  | undelegate
  | withdraw
  | modifyDelegationCap
  | changeServiceFee
  | receiveValidationReward
  /-- A call of a contract that has no meaning of its own. -/
  | contractCall
  /-- A payload that cannot be read. -/
  | unknown
  deriving DecidableEq, Inhabited, Repr

namespace Activity

/-- All kinds of activity. -/
def all : List Activity :=
  [send, receive, swap, wrap, unwrap, enterPool, exitPool, enterFarm, exitFarm, claim, compound,
    delegate, undelegate, withdraw, modifyDelegationCap, changeServiceFee,
    receiveValidationReward, contractCall, unknown]

/-- The name under which a kind is written. -/
def name : Activity → String
  | send => "Send"
  | receive => "Receive"
  | swap => "Swap"
  | wrap => "Wrap"
  | unwrap => "Unwrap"
  | enterPool => "EnterLP"
  | exitPool => "ExitLP"
  | enterFarm => "EnterFarm"
  | exitFarm => "ExitFarm"
  | claim => "Claim"
  | compound => "Compound"
  | delegate => "Delegate"
  | undelegate => "Undelegate"
  | withdraw => "Withdraw"
  | modifyDelegationCap => "ModifyDelegationCap"
  | changeServiceFee => "ChangeServiceFee"
  | receiveValidationReward => "ReceiveValidationReward"
  | contractCall => "SmartContract"
  | unknown => "Unknown"

/-- The kind that is written under a name. -/
def ofName? (name : String) : Option Activity :=
  all.find? fun a => a.name = name

/-- A kind is read back from its name. -/
@[simp] theorem ofName?_name (a : Activity) : ofName? a.name = some a := by
  cases a <;> decide

end Activity

/-- A transaction with its meaning. -/
structure ClassifiedTransaction where
  /-- The transaction, with the receiver that its payload names. -/
  transaction : Transaction
  activity : Activity
  /-- The function that was called. -/
  function : Option String
  /-- The amount that the activity is about. -/
  effective : TokenAmount
  /-- A second amount, which may be absent. -/
  other : TokenAmount
  deriving Repr

end ChainActivity
