/-!
# Contract functions

The functions of contracts whose calls have a meaning of their own.  Some of them
come in families: every name that begins with the name of the family means the
family.

## Main definitions

* `ContractFunction` — the functions, with `ContractFunction.name`.
* `ContractFunction.isFamily` — whether longer names mean the function too.
* `ContractFunction.ofName?` — the function that a name means.
-/

namespace ChainActivity

/-- A function with a meaning of its own. -/
inductive ContractFunction where
  | swapTokensFixedInput
  | swapTokensFixedOutput
  | wrapEgld
  | unwrapEgld
  | addLiquidity
  | removeLiquidity
  | enterFarm
  | exitFarm
  | claimRewards
  | claimRewardsProxy
  | unlockAssets
  | compoundRewards
  | delegate
  | stake
  | unDelegate
  | unStake
  | reDelegateRewards
  | withdraw
  | unBond
  | modifyTotalDelegationCap
  | changeServiceFee
  deriving DecidableEq, Repr

namespace ContractFunction

/-- All functions. -/
def all : List ContractFunction :=
  [swapTokensFixedInput, swapTokensFixedOutput, wrapEgld, unwrapEgld, addLiquidity,
    removeLiquidity, enterFarm, exitFarm, claimRewards, claimRewardsProxy, unlockAssets,
    compoundRewards, delegate, stake, unDelegate, unStake, reDelegateRewards, withdraw, unBond,
    modifyTotalDelegationCap, changeServiceFee]

/-- The name by which payloads call a function. -/
def name : ContractFunction → String
  | swapTokensFixedInput => "swapTokensFixedInput"
  | swapTokensFixedOutput => "swapTokensFixedOutput"
  | wrapEgld => "wrapEgld"
  | unwrapEgld => "unwrapEgld"
  | addLiquidity => "addLiquidity"
  | removeLiquidity => "removeLiquidity"
  | enterFarm => "enterFarm"
  | exitFarm => "exitFarm"
  | claimRewards => "claimRewards"
  | claimRewardsProxy => "claimRewardsProxy"
  | unlockAssets => "unlockAssets"
  | compoundRewards => "compoundRewards"
  | delegate => "delegate"
  | stake => "stake"
  | unDelegate => "unDelegate"
  | unStake => "unStake"
  | reDelegateRewards => "reDelegateRewards"
  | withdraw => "withdraw"
  | unBond => "unBond"
  | modifyTotalDelegationCap => "modifyTotalDelegationCap"
  | changeServiceFee => "changeServiceFee"

/-- Whether every name that begins with the name of the function means it. -/
def isFamily : ContractFunction → Bool
  | addLiquidity | enterFarm | exitFarm | compoundRewards => true
  | _ => false

/-- Whether a name means a function as a member of its family. -/
def hasMember (f : ContractFunction) (name : String) : Bool :=
  f.isFamily && f.name.toList.isPrefixOf name.toList

/-- The function that a name means: the one of that name, else the family that the
name belongs to. -/
def ofName? (name : String) : Option ContractFunction :=
  (all.find? fun f => f.name = name).or (all.find? fun f => f.hasMember name)

/-- Every function is listed. -/
theorem mem_all (f : ContractFunction) : f ∈ all := by
  cases f <;> decide

end ContractFunction

end ChainActivity
