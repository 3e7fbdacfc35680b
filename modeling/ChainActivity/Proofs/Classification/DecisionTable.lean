import ChainActivity.Proofs.Call.Names
import ChainActivity.Proofs.Classification.Unreadable

/-!
# The decision table of activities

The kind of activity of a transaction can be read off a table: it depends on the shape
of the call, on the name of the function that it invokes, and on who sent it.  The
table also says what has to be read beside the call, and so when nothing can be found.

## Main definitions

* `Verdict`, `ActivityRule`, `verdictIn` — what rules say of a name.
* `transferRules`, `itemRules`, `multiRules`, `genericRules` — the table, one part for
  each shape of a call.
* `Viewpoint.verdict` — what the table says of a call.
* `Viewpoint.Lacks` — what has to be read beside a call cannot be read.
* `Viewpoint.Follows` — what is found for a call is what a verdict says.

## Main statements

* `verdictIn_map` — rules that are given by functions look at the function of a name.
* `Viewpoint.follows_find` — what is found for a call is what the table says.
* `activity_classify` — the activity of every transaction is the one of the table.
* `classify_unknown` — when it is unknown, and that nothing else has changed then.

## Design notes

The table names functions as payloads do, by names and beginnings of names, and says
nothing about `ContractFunction`.  The link is `ContractFunction.matches_pattern`: a
name matches the pattern of one function at most, so the order of the rules does not
matter and a finding can be compared function by function.

Kind of activity and failure are two sides of one comparison.  `Follows` states both at
once, so that each of the many branches of a finding is looked at once only.
-/

namespace ChainActivity

/-! ### Rules -/

/-- What has to be read beside a call. -/
inductive Requirement where
  | nothing
  /-- The first argument, as an amount. -/
  | amount
  /-- The transfers among the results considered. -/
  | ownTransfers
  /-- The transfers among all results. -/
  | allTransfers
  deriving DecidableEq, Repr

/-- The activity that a call means, if what it needs can be read. -/
structure Verdict where
  activity : Activity
  needs : Requirement := .nothing
  deriving DecidableEq, Repr

/-- A rule: the names that it is for, and what it says of them. -/
structure ActivityRule where
  names : List NamePattern
  verdict : Verdict

/-- What rules say of a name. -/
def verdictIn (rules : List ActivityRule) (name : String) : Option Verdict :=
  (rules.find? fun rule => rule.names.any fun pattern => pattern.matches name).map
    ActivityRule.verdict

/-- The rule that is for some functions. -/
def ActivityRule.ofFunctions (row : List ContractFunction × Verdict) : ActivityRule :=
  ⟨row.1.map ContractFunction.pattern, row.2⟩

/-- Rules that are given by functions look at the function that a name means. -/
theorem verdictIn_map (rows : List (List ContractFunction × Verdict)) (name : String) :
    verdictIn (rows.map ActivityRule.ofFunctions) name =
      (ContractFunction.ofName? name).bind fun f =>
        (rows.find? fun row => decide (f ∈ row.1)).map Prod.snd := by
  have condition : ∀ row : List ContractFunction × Verdict,
      ((ActivityRule.ofFunctions row).names.any fun pattern => pattern.matches name) =
        row.1.any fun f => decide (ContractFunction.ofName? name = some f) := by
    intro row
    rw [ActivityRule.ofFunctions, List.any_map]
    exact List.any_congr rfl fun f => f.matches_pattern name
  rw [verdictIn, List.find?_map, Option.map_map]
  simp only [Function.comp_def, condition]
  cases ContractFunction.ofName? name with
  | none => simp
  | some g =>
    have among : ∀ row : List ContractFunction × Verdict,
        (row.1.any fun f => decide (some g = some f)) = decide (g ∈ row.1) := by
      intro row
      rw [Bool.eq_iff_iff]
      simp
    simp only [among, Option.bind_some, ActivityRule.ofFunctions]

/-! ### The table -/

/-- The rules for functions that a transfer of a plain token invokes. -/
def transferRules : List ActivityRule :=
  [⟨[.exactly "swapTokensFixedInput", .exactly "swapTokensFixedOutput"], ⟨.swap, .ownTransfers⟩⟩,
    ⟨[.exactly "unwrapEgld"], ⟨.unwrap, .nothing⟩⟩,
    ⟨[.exactly "removeLiquidity"], ⟨.exitPool, .ownTransfers⟩⟩]

/-- The rules for functions that a transfer of an item invokes. -/
def itemRules : List ActivityRule :=
  [⟨[.exactly "claimRewards", .exactly "claimRewardsProxy", .exactly "unlockAssets"],
      ⟨.claim, .allTransfers⟩⟩,
    ⟨[.beginning "compoundRewards"], ⟨.compound, .nothing⟩⟩,
    ⟨[.beginning "exitFarm"], ⟨.exitFarm, .allTransfers⟩⟩]

/-- The rules for functions that a transfer of several tokens invokes. -/
def multiRules : List ActivityRule :=
  [⟨[.beginning "enterFarm"], ⟨.enterFarm, .nothing⟩⟩,
    ⟨[.beginning "addLiquidity"], ⟨.enterPool, .nothing⟩⟩]

/-- The rules for calls that move no tokens. -/
def genericRules : List ActivityRule :=
  [⟨[.exactly "delegate", .exactly "stake"], ⟨.delegate, .nothing⟩⟩,
    ⟨[.exactly "unDelegate", .exactly "unStake"], ⟨.undelegate, .amount⟩⟩,
    ⟨[.exactly "claimRewards"], ⟨.claim, .nothing⟩⟩,
    ⟨[.exactly "reDelegateRewards"], ⟨.compound, .nothing⟩⟩,
    ⟨[.exactly "withdraw", .exactly "unBond"], ⟨.withdraw, .nothing⟩⟩,
    ⟨[.exactly "modifyTotalDelegationCap"], ⟨.modifyDelegationCap, .amount⟩⟩,
    ⟨[.exactly "changeServiceFee"], ⟨.changeServiceFee, .amount⟩⟩,
    ⟨[.exactly "wrapEgld"], ⟨.wrap, .ownTransfers⟩⟩]

example : verdictIn itemRules "exitFarmProxy" = some ⟨.exitFarm, .allTransfers⟩ := by decide

/-! The table by functions, each of which stands for its names. -/

theorem transferRules_eq : transferRules = List.map ActivityRule.ofFunctions
    [([.swapTokensFixedInput, .swapTokensFixedOutput], ⟨.swap, .ownTransfers⟩),
      ([.unwrapEgld], ⟨.unwrap, .nothing⟩),
      ([.removeLiquidity], ⟨.exitPool, .ownTransfers⟩)] :=
  rfl

theorem itemRules_eq : itemRules = List.map ActivityRule.ofFunctions
    [([.claimRewards, .claimRewardsProxy, .unlockAssets], ⟨.claim, .allTransfers⟩),
      ([.compoundRewards], ⟨.compound, .nothing⟩),
      ([.exitFarm], ⟨.exitFarm, .allTransfers⟩)] :=
  rfl

theorem multiRules_eq : multiRules = List.map ActivityRule.ofFunctions
    [([.enterFarm], ⟨.enterFarm, .nothing⟩), ([.addLiquidity], ⟨.enterPool, .nothing⟩)] :=
  rfl

theorem genericRules_eq : genericRules = List.map ActivityRule.ofFunctions
    [([.delegate, .stake], ⟨.delegate, .nothing⟩), ([.unDelegate, .unStake], ⟨.undelegate, .amount⟩),
      ([.claimRewards], ⟨.claim, .nothing⟩), ([.reDelegateRewards], ⟨.compound, .nothing⟩),
      ([.withdraw, .unBond], ⟨.withdraw, .nothing⟩),
      ([.modifyTotalDelegationCap], ⟨.modifyDelegationCap, .amount⟩),
      ([.changeServiceFee], ⟨.changeServiceFee, .amount⟩),
      ([.wrapEgld], ⟨.wrap, .ownTransfers⟩)] :=
  rfl

namespace Viewpoint

variable (v : Viewpoint)

/-- A movement of value: the account sends it or receives it. -/
def movement : Activity :=
  if v.transaction.sender = v.account then .send else .receive

/-- What rules say of what a transfer invokes.  A transfer that invokes nothing moves
value; a function without a rule is called for reasons of its own. -/
def ruled (rules : List ActivityRule) : Option Invocation → Verdict
  | none => ⟨v.movement, .nothing⟩
  | some invocation => (verdictIn rules invocation.function).getD ⟨.contractCall, .nothing⟩

/-- What the table says of a call. -/
def verdict : Call → Verdict
  | .transfer _ _ called => v.ruled transferRules called
  | .itemTransfer _ _ called => v.ruled itemRules called
  | .multiTransfer _ _ called => v.ruled multiRules called
  | .generic invocation =>
    (verdictIn genericRules invocation.function).getD
      ⟨if v.transaction.sender = metachain then .receiveValidationReward else .contractCall,
        .nothing⟩

/-- Whether something that has to be read beside a call cannot be read. -/
def Lacks (call : Call) : Requirement → Prop
  | .nothing => False
  | .amount => ∃ invocation, call = .generic invocation ∧ invocation.LacksAmount
  | .ownTransfers => ∃ r ∈ v.consideredResults, r.IsBroken
  | .allTransfers => ∃ r ∈ v.results, r.IsBroken

/-! ### Findings -/

/-- Whether what is found for a call is what a verdict says: its activity, or a failure
if what it needs cannot be read. -/
def Follows (call : Call) (verdict : Verdict) : Except DecodeError Finding → Prop
  | .ok finding => finding.activity = verdict.activity ∧ ¬ v.Lacks call verdict.needs
  | .error _ => v.Lacks call verdict.needs

variable {v} {call : Call} {activity : Activity}

theorem direction_eq : v.direction = v.movement := by
  rw [direction, movement, isSender]
  simp only [decide_eq_true_eq]

/-- A finding for which nothing has to be read. -/
theorem follows_ok {finding : Finding} (same : finding.activity = activity) :
    v.Follows call ⟨activity, .nothing⟩ (.ok finding) :=
  ⟨same, id⟩

/-- A finding that is made of what has been read. -/
theorem follows_bind {α : Type} {read : Except DecodeError α} {make : α → Except DecodeError Finding}
    {needs : Requirement} (lacks : (∃ e, read = .error e) ↔ v.Lacks call needs)
    (makes : ∀ a, ∃ finding, make a = .ok finding ∧ finding.activity = activity) :
    v.Follows call ⟨activity, needs⟩ (read.bind make) := by
  cases read with
  | error e => exact lacks.mp ⟨e, rfl⟩
  | ok a =>
    obtain ⟨finding, made, same⟩ := makes a
    rw [Except.bind, made]
    exact ⟨same, fun unread => nomatch lacks.mpr unread⟩

/-- The finding for a transfer of a plain token follows the table. -/
theorem follows_findTransfer (payment : Payment) (called : Option Invocation) :
    v.Follows call (v.ruled transferRules called)
      (v.findTransfer payment (called.map Invocation.function)) := by
  cases called with
  | none => exact follows_ok direction_eq
  | some invocation =>
    rw [ruled, transferRules_eq, verdictIn_map]
    simp only [findTransfer, Option.map_some]
    cases ContractFunction.ofName? invocation.function with
    | none => exact follows_ok rfl
    | some f =>
      cases f
      case swapTokensFixedInput | swapTokensFixedOutput | removeLiquidity =>
        exact follows_bind v.error_plainTransferAmounts_iff fun _ => ⟨_, rfl, rfl⟩
      all_goals exact follows_ok rfl

/-- The finding for a transfer of an item follows the table. -/
theorem follows_findItemTransfer (payment : Payment) (called : Option Invocation) :
    v.Follows call (v.ruled itemRules called)
      (v.findItemTransfer payment (called.map Invocation.function)) := by
  cases called with
  | none => exact follows_ok direction_eq
  | some invocation =>
    rw [ruled, itemRules_eq, verdictIn_map]
    simp only [findItemTransfer, Option.map_some]
    cases ContractFunction.ofName? invocation.function with
    | none => exact follows_ok rfl
    | some f =>
      cases f
      case claimRewards | claimRewardsProxy | unlockAssets | exitFarm =>
        exact follows_bind (error_transferAmounts_iff v.decimals v.results) fun _ => ⟨_, rfl, rfl⟩
      all_goals exact follows_ok rfl

/-- The finding for a transfer of several tokens follows the table. -/
theorem follows_findMultiTransfer (payments : List Payment) (called : Option Invocation) :
    v.Follows call (v.ruled multiRules called)
      (.ok (v.findMultiTransfer payments (called.map Invocation.function))) := by
  cases called with
  | none => exact follows_ok direction_eq
  | some invocation =>
    rw [ruled, multiRules_eq, verdictIn_map]
    simp only [findMultiTransfer, Option.map_some]
    cases ContractFunction.ofName? invocation.function with
    | none => exact follows_ok rfl
    | some f => cases f <;> exact follows_ok rfl

/-- The finding for a call that moves no tokens follows the table. -/
theorem follows_findGeneric (invocation : Invocation) :
    v.Follows (.generic invocation) (v.verdict (.generic invocation))
      (v.findGeneric invocation) := by
  have lacks : (∃ e, firstAmount invocation = .error e) ↔
      v.Lacks (.generic invocation) .amount := by
    rw [error_firstAmount_iff]
    refine ⟨fun lacks => ⟨invocation, rfl, lacks⟩, ?_⟩
    rintro ⟨_, same, lacks⟩
    obtain rfl := Call.generic.inj same
    exact lacks
  have unruled : (if v.isFromProtocol then .receiveValidationReward else .contractCall) =
      (if v.transaction.sender = metachain then .receiveValidationReward
        else .contractCall : Activity) := by
    rw [isFromProtocol]
    simp only [decide_eq_true_eq]
  rw [verdict, genericRules_eq, verdictIn_map, findGeneric]
  cases ContractFunction.ofName? invocation.function with
  | none => exact follows_ok unruled
  | some f =>
    cases f
    case unDelegate | unStake | modifyTotalDelegationCap | changeServiceFee =>
      exact follows_bind lacks fun _ => ⟨_, rfl, rfl⟩
    case wrapEgld => exact follows_bind v.error_plainTransferAmounts_iff fun _ => ⟨_, rfl, rfl⟩
    case delegate | stake | claimRewards | reDelegateRewards | withdraw | unBond =>
      exact follows_ok rfl
    all_goals exact follows_ok unruled

/-- What is found for a call is what the table says of it. -/
theorem follows_find (v : Viewpoint) (call : Call) : v.Follows call (v.verdict call) (v.find call) := by
  cases call with
  | transfer token amount called => exact follows_findTransfer _ called
  | itemTransfer payment destination called => exact follows_findItemTransfer payment called
  | multiTransfer destination payments called => exact follows_findMultiTransfer payments called
  | generic invocation => exact follows_findGeneric invocation

/-- The table never says that a payload cannot be read. -/
theorem activity_verdict_ne_unknown (v : Viewpoint) (call : Call) :
    (v.verdict call).activity ≠ .unknown := by
  have moved : v.movement ≠ .unknown := by
    rw [movement]
    split <;> decide
  have ruled : ∀ {rules : List ActivityRule} {otherwise : Verdict},
      (∀ rule ∈ rules, rule.verdict.activity ≠ .unknown) → otherwise.activity ≠ .unknown →
      ∀ name, ((verdictIn rules name).getD otherwise).activity ≠ .unknown := by
    intro rules otherwise known other name
    rw [verdictIn]
    rcases found : rules.find? _ with _ | rule
    · exact other
    · exact known rule (List.mem_of_find?_eq_some found)
  cases call with
  | transfer token amount called =>
    cases called with
    | none => exact moved
    | some invocation => exact ruled (by decide) (by decide) _
  | itemTransfer payment destination called =>
    cases called with
    | none => exact moved
    | some invocation => exact ruled (by decide) (by decide) _
  | multiTransfer destination payments called =>
    cases called with
    | none => exact moved
    | some invocation => exact ruled (by decide) (by decide) _
  | generic invocation =>
    refine ruled (by decide) ?_ _
    split <;> decide

/-! ### Payloads -/

/-- Whether a payload is no call, or is one that needs what cannot be read. -/
def IsUnreadable (v : Viewpoint) (data : String) : Prop :=
  (∃ e, Call.ofPayload data = .error e) ∨
    ∃ call, Call.ofPayload data = .ok call ∧ v.Lacks call (v.verdict call).needs

/-- The call of a payload and its activity are found, unless the payload cannot be
read. -/
theorem findPayload_cases (v : Viewpoint) (data : String) :
    (∃ call finding, Call.ofPayload data = .ok call ∧
        v.findPayload data = .ok (call, finding) ∧
        finding.activity = (v.verdict call).activity ∧ ¬ v.IsUnreadable data) ∨
      ∃ e, v.findPayload data = .error e ∧ v.IsUnreadable data := by
  rw [findPayload, IsUnreadable]
  rcases read : Call.ofPayload data with e | call
  · exact .inr ⟨e, rfl, .inl ⟨e, rfl⟩⟩
  · have follows := v.follows_find call
    rcases found : v.find call with e | finding
    · rw [found] at follows
      exact .inr ⟨e, by simp only [bind, Except.bind, found], .inr ⟨call, rfl, follows⟩⟩
    · rw [found] at follows
      refine .inl ⟨call, finding, rfl, by simp only [bind, Except.bind, found], follows.1, ?_⟩
      rintro (⟨e, unread⟩ | ⟨other, same, lacks⟩)
      · cases unread
      · obtain rfl := Except.ok.inj same
        exact follows.2 lacks

/-- The activity of a transaction is known, or contracts took part in it and its
payload cannot be read; then nothing else is found about it. -/
theorem classified_cases (v : Viewpoint) :
    (v.classified.activity ≠ .unknown ∧
        ¬ (v.hasContractMarks = true ∧
          ∃ data, v.transaction.payload? = some data ∧ v.IsUnreadable data)) ∨
      (v.classified = v.asDeclared .unknown ∧ v.hasContractMarks = true ∧
        ∃ data, v.transaction.payload? = some data ∧ v.IsUnreadable data) := by
  have moved : v.direction ≠ .unknown := by
    rw [direction]
    split <;> decide
  rw [classified]
  rcases marks : v.hasContractMarks with _ | _
  · exact .inl ⟨moved, fun marked => Bool.false_ne_true marked.1⟩
  · rcases payload : v.transaction.payload? with _ | data
    · refine .inl ⟨?_, ?_⟩
      · change v.plainActivity ≠ .unknown
        rw [plainActivity]
        split
        · decide
        · exact moved
      · rintro ⟨-, data, present, -⟩
        cases present
    · rcases v.findPayload_cases data with
        ⟨call, finding, -, found, same, readable⟩ | ⟨e, failed, unread⟩
      · refine .inl ⟨?_, ?_⟩
        · simp only [if_true, found, withFinding, same]
          exact v.activity_verdict_ne_unknown call
        · rintro ⟨-, other, present, unread⟩
          obtain rfl := Option.some.inj present
          exact readable unread
      · refine .inr ⟨?_, rfl, data, rfl, unread⟩
        simp only [if_true, failed]

/-- What a transaction means was found for its call, or it is as it was declared: without
marks of contracts, without payload, or unknown. -/
theorem classified_withFinding_or_asDeclared (v : Viewpoint) :
    (∃ data call finding, v.hasContractMarks = true ∧ v.transaction.payload? = some data ∧
        Call.ofPayload data = .ok call ∧ v.findPayload data = .ok (call, finding) ∧
        finding.activity ≠ .unknown ∧ v.classified = v.withFinding call finding) ∨
      ∃ activity, v.classified = v.asDeclared activity ∧
        (v.hasContractMarks = false ∨ v.transaction.payload? = none ∨ activity = .unknown) := by
  rcases marks : v.hasContractMarks with _ | _
  · refine .inr ⟨v.direction, ?_, .inl rfl⟩
    simp only [classified, marks, Bool.false_eq_true, if_false]
  · rcases payload : v.transaction.payload? with _ | data
    · refine .inr ⟨v.plainActivity, ?_, .inr (.inl rfl)⟩
      simp only [classified, marks, payload, if_true]
    · rcases v.findPayload_cases data with ⟨call, finding, read, found, same, -⟩ | ⟨e, failed, -⟩
      · refine .inl ⟨data, call, finding, rfl, rfl, read, found, ?_, ?_⟩
        · rw [same]
          exact v.activity_verdict_ne_unknown call
        · simp only [classified, marks, payload, found, if_true]
      · refine .inr ⟨.unknown, ?_, .inr (.inr rfl)⟩
        simp only [classified, marks, payload, failed, if_true]

end Viewpoint

/-- The activity of every transaction is the one of the table, for every name of a
function: a transaction without marks of contracts, and one without payload, is judged
by who sent it, and any other by the call that its payload is.  It is unknown where that
is no call, or nothing can be found for it. -/
theorem activity_classify (decimals : Decimals) (account : Option String) (tx : Transaction)
    (results : List ContractResult) :
    let v : Viewpoint := ⟨tx, results, account.getD tx.sender, decimals⟩
    let movement : Activity := if tx.sender = account.getD tx.sender then .send else .receive
    (classify decimals account tx results).activity =
      if v.hasContractMarks then
        match tx.payload? with
        | none => if tx.sender = metachain then .receiveValidationReward else movement
        | some data =>
          match Call.ofPayload data, v.findPayload data with
          | .ok call, .ok _ => (v.verdict call).activity
          | _, _ => .unknown
      else movement := by
  intro v movement
  have direction : v.direction = movement := Viewpoint.direction_eq
  change v.classified.activity = _
  rw [Viewpoint.classified]
  split
  · cases payload : tx.payload? with
    | none =>
      change v.plainActivity = _
      rw [Viewpoint.plainActivity, direction, Viewpoint.isFromProtocol]
      simp only [decide_eq_true_eq, v]
    | some data =>
      rcases v.findPayload_cases data with
        ⟨call, finding, read, found, same, -⟩ | ⟨e, failed, -⟩
      · simp only [read, found]
        exact same
      · simp only [failed]
        cases Call.ofPayload data <;> rfl
  · exact direction

/-- The activity of a transaction is unknown exactly if contracts took part in it and
its payload is no call, or is one that needs what cannot be read; and then the
transaction is given back as it was declared. -/
theorem classify_unknown (decimals : Decimals) (account : Option String) (tx : Transaction)
    (results : List ContractResult) :
    let v : Viewpoint := ⟨tx, results, account.getD tx.sender, decimals⟩
    let classified := classify decimals account tx results
    (classified.activity = .unknown ↔
      v.hasContractMarks = true ∧ ∃ data, tx.payload? = some data ∧
        ((∃ e, Call.ofPayload data = .error e) ∨
          ∃ call, Call.ofPayload data = .ok call ∧ v.Lacks call (v.verdict call).needs)) ∧
    (classified.activity = .unknown →
      classified = ⟨tx, .unknown, none, .ofDecimalOrZero decimals Token.native tx.value, .absent⟩) := by
  intro v classified
  rcases v.classified_cases with ⟨known, readable⟩ | ⟨declared, unread⟩
  · exact ⟨⟨fun same => absurd same known, fun unread => absurd unread readable⟩,
      fun same => absurd same known⟩
  · have whole : classified = v.asDeclared .unknown := declared
    exact ⟨⟨fun _ => unread, fun _ => congrArg ClassifiedTransaction.activity whole⟩,
      fun _ => whole⟩

end ChainActivity
