import ChainActivity.Proofs.Classification.Decimals
import ChainActivity.Proofs.Token.Arithmetic

/-!
# Where the amounts of a classification come from

The amounts that a classified transaction is about are of tokens that the transaction and its
results name.  They are units of the native token, or units that a payment moves, less what
came back of them.  The one exception is a service fee, which is no amount of a token.

## Main definitions

* `Yields` — whether a computation that succeeds gives a result of some kind.
* `Viewpoint.Draws` — where an amount comes from, and `Viewpoint.MayDraw` for one that need
  not apply.
* `Finding.IsDrawn` — whether both amounts of a finding come from there.

## Main statements

* `Viewpoint.draws_findCall` — the amounts of a finding are drawn.
* `Viewpoint.draws_classified` — so are those of a classified transaction.
* `referencedTokens_cover` — named tokens are all that a classification looks up, and all
  that its amounts are of.

## Design notes

The tokens that are named are collected without regard to what is classified: payloads that
cannot be read are passed over, and all calls count.  A finding reads payloads with conditions
on the text, on the receiver and on the kind of call, and may fail.  So the two agree only in
one direction, and only where the finding has been made.
-/

namespace ChainActivity

/-! ### Computations that succeed -/

/-- Whether a computation that succeeds gives a result with some property. -/
def Yields {ε α : Type} (p : α → Prop) (result : Except ε α) : Prop :=
  ∀ x, result = .ok x → p x

section Yields

variable {ε α β : Type} {p : α → Prop} {q : β → Prop}

theorem yields_ok {x : α} (holds : p x) : Yields p (.ok x : Except ε α) := by
  rintro _ ⟨⟩
  exact holds

theorem yields_error (e : ε) : Yields p (.error e : Except ε α) :=
  fun _ failed => nomatch failed

theorem Yields.bind {result : Except ε α} {f : α → Except ε β} (first : Yields p result)
    (next : ∀ x, p x → Yields q (f x)) : Yields q (result >>= f) := by
  cases result with
  | error e => exact yields_error e
  | ok x => exact next x (first x rfl)

end Yields

/-! ### Sources -/

/-- Where an amount comes from that is found for a transaction. -/
inductive Viewpoint.Draws (v : Viewpoint) : TokenAmount → Prop
  /-- Units of the native token are given in decimal digits, by the transaction or by one of
  its results. -/
  | native (text : String) : v.Draws (v.nativeAmount text)
  /-- Units of a token that is named are moved. -/
  | units {token : String} (named : token ∈ v.tokens) (units : Amount) :
    v.Draws (.ofUnitsOrZero v.decimals token units)
  /-- Something is taken from such an amount. -/
  | less {a : TokenAmount} (drawn : v.Draws a) (taken : TokenAmount) : v.Draws (a.sub taken)

/-- Whether an amount comes from there, unless none applies. -/
def Viewpoint.MayDraw (v : Viewpoint) (a : TokenAmount) : Prop :=
  v.Draws a ∨ a = .absent

/-- Whether the amounts of a finding come from what the transaction and its results name.  The
effective amount may be a service fee instead, and the other one need not apply. -/
structure Finding.IsDrawn (v : Viewpoint) (finding : Finding) : Prop where
  effective : v.Draws finding.effective ∨
    finding.activity = .changeServiceFee ∧
      ∃ units, finding.effective = .of units feeDecimals feeUnit
  other : v.MayDraw finding.other

namespace Viewpoint

variable {v : Viewpoint}

/-- An amount is of a token that is named. -/
theorem Draws.token_mem {a : TokenAmount} (drawn : v.Draws a) : a.token ∈ v.tokens := by
  induction drawn with
  | native text =>
    have native : (v.nativeAmount text).token = Token.native :=
      TokenAmount.token_ofDecimalOrZero _ _ _
    rw [native]
    exact native_mem_referencedTokens _ _
  | units named units =>
    rw [TokenAmount.token_ofUnitsOrZero]
    exact named
  | less drawn taken ih =>
    rw [TokenAmount.token_sub]
    exact ih

theorem mayDraw_absent : v.MayDraw .absent :=
  .inr rfl

theorem draws_native (units : Amount) :
    v.Draws (.ofUnitsOrZero v.decimals Token.native units) :=
  .units (native_mem_referencedTokens _ _) units

theorem draws_value {p : Payment} (named : p.token ∈ v.tokens) : v.Draws (p.value v.decimals) :=
  .units named p.amount

/-- A finding that is not about a service fee. -/
theorem isDrawn_of_draws {activity : Activity} {effective other : TokenAmount}
    {function : Option String} (drawn : v.Draws effective) (drawn' : v.MayDraw other) :
    Finding.IsDrawn v ⟨activity, effective, other, function⟩ :=
  ⟨.inl drawn, drawn'⟩

/-! ### Lists of amounts -/

section Lists

variable {amounts : List TokenAmount} {default : TokenAmount}

section

variable {p : TokenAmount → Prop} (all : ∀ a ∈ amounts, p a) (fallback : p default)
include all fallback

theorem headD_of_forall : p (amounts.headD default) := by
  cases amounts with
  | nil => exact fallback
  | cons a rest => exact all a List.mem_cons_self

theorem find_of_forall (condition : TokenAmount → Bool) :
    p ((amounts.find? condition).getD default) := by
  cases found : amounts.find? condition with
  | none => exact fallback
  | some a => exact all a (List.mem_of_find?_eq_some found)

end

variable (all : ∀ a ∈ amounts, v.Draws a)
include all

theorem mayDraw_of_mem : ∀ a ∈ amounts, v.MayDraw a :=
  fun a member => .inl (all a member)

/-- The first two amounts of a list, the first of which has a substitute. -/
theorem isDrawn_firstTwo {activity : Activity} {function : Option String}
    (fallback : v.Draws default) :
    Finding.IsDrawn v
      ⟨activity, amounts.headD default, (amounts.drop 1).headD .absent, function⟩ := by
  apply isDrawn_of_draws (headD_of_forall all fallback)
  apply headD_of_forall _ mayDraw_absent
  intro a member
  exact mayDraw_of_mem all a (List.mem_of_mem_drop member)

/-- What is left of a swap, and what was bought. -/
theorem draws_netSwap {sold : TokenAmount} (drawn : v.Draws sold) :
    v.Draws (netSwap sold amounts).1 ∧ v.MayDraw (netSwap sold amounts).2 := by
  unfold netSwap
  refine List.foldlRecOn
    (motive := fun (balance : TokenAmount × TokenAmount) =>
      v.Draws balance.1 ∧ v.MayDraw balance.2)
    amounts _ ⟨drawn, mayDraw_absent⟩ ?_
  rintro ⟨remaining, bought⟩ ⟨left, right⟩ output member
  dsimp only
  split
  · exact ⟨.less left output, right⟩
  · split
    · exact ⟨left, .inl (all output member)⟩
    · exact ⟨left, right⟩

end Lists

/-! ### Findings -/

theorem draws_declared (v : Viewpoint) : v.Draws v.declared :=
  .native v.transaction.value

theorem draws_plainResultAmount (v : Viewpoint) (condition : ContractResult → Bool) :
    v.Draws (v.plainResultAmount condition) := by
  unfold plainResultAmount
  split
  · exact .native _
  · exact v.draws_declared

/-- The amounts that some of the results move. -/
theorem draws_amounts (keep : Call → Bool) {considered : List ContractResult}
    (among : ∀ r ∈ considered, r ∈ v.results) :
    Yields (fun amounts => ∀ a ∈ amounts, v.Draws a)
      ((paymentsOf keep considered).map fun ps => ps.map (Payment.value v.decimals)) := by
  cases read : paymentsOf keep considered with
  | error e => exact yields_error e
  | ok ps =>
    apply yields_ok
    intro a member
    obtain ⟨p, moved, rfl⟩ := List.mem_map.mp member
    exact draws_value (token_mem_referencedTokens_of_results among read moved)

theorem draws_plainTransferAmounts (v : Viewpoint) :
    Yields (fun amounts => ∀ a ∈ amounts, v.Draws a) v.plainTransferAmounts :=
  draws_amounts _ fun _ => mem_results_of_mem_considered

theorem draws_transferAmounts (v : Viewpoint) :
    Yields (fun amounts => ∀ a ∈ amounts, v.Draws a) (transferAmounts v.decimals v.results) :=
  draws_amounts _ fun _ member => member

theorem draws_findTransfer {p : Payment} (named : p.token ∈ v.tokens)
    (function : Option String) : Yields (Finding.IsDrawn v) (v.findTransfer p function) := by
  have amount := draws_value named
  have plain (activity : Activity) :
      Finding.IsDrawn v ⟨activity, p.value v.decimals, .absent, function⟩ :=
    isDrawn_of_draws amount mayDraw_absent
  unfold findTransfer
  cases function with
  | none => exact yields_ok (plain _)
  | some name =>
    dsimp only
    cases ContractFunction.ofName? name with
    | none => exact yields_ok (plain _)
    | some f =>
      cases f
      case swapTokensFixedInput | swapTokensFixedOutput =>
        refine v.draws_plainTransferAmounts.bind fun amounts all => ?_
        obtain ⟨rest, bought⟩ := draws_netSwap all amount
        exact yields_ok (isDrawn_of_draws rest bought)
      case removeLiquidity =>
        refine v.draws_plainTransferAmounts.bind fun amounts all => ?_
        exact yields_ok (isDrawn_firstTwo all amount)
      case unwrapEgld => exact yields_ok (isDrawn_of_draws amount (.inl (draws_native _)))
      all_goals exact yields_ok (plain _)

theorem draws_findItemTransfer {p : Payment} (named : p.token ∈ v.tokens)
    (function : Option String) : Yields (Finding.IsDrawn v) (v.findItemTransfer p function) := by
  have amount := draws_value named
  have plain (activity : Activity) :
      Finding.IsDrawn v ⟨activity, p.value v.decimals, .absent, function⟩ :=
    isDrawn_of_draws amount mayDraw_absent
  unfold findItemTransfer
  cases function with
  | none => exact yields_ok (plain _)
  | some name =>
    dsimp only
    cases ContractFunction.ofName? name with
    | none => exact yields_ok (plain _)
    | some f =>
      cases f
      case claimRewards | claimRewardsProxy | unlockAssets =>
        refine v.draws_transferAmounts.bind fun amounts all => ?_
        exact yields_ok (isDrawn_of_draws (find_of_forall all amount _)
          (find_of_forall (mayDraw_of_mem all) mayDraw_absent _))
      case exitFarm =>
        refine v.draws_transferAmounts.bind fun amounts all => ?_
        exact yields_ok (isDrawn_firstTwo all amount)
      all_goals exact yields_ok (plain _)

theorem draws_findMultiTransfer {ps : List Payment} (named : ∀ p ∈ ps, p.token ∈ v.tokens)
    (function : Option String) : Finding.IsDrawn v (v.findMultiTransfer ps function) := by
  apply isDrawn_firstTwo _ v.draws_declared
  intro a member
  obtain ⟨p, moved, rfl⟩ := List.mem_map.mp member
  exact draws_value (named p moved)

theorem draws_findGeneric (v : Viewpoint) (invocation : Invocation) :
    Yields (Finding.IsDrawn v) (v.findGeneric invocation) := by
  have plain (activity : Activity) :
      Finding.IsDrawn v ⟨activity, v.declared, .absent, some invocation.function⟩ :=
    isDrawn_of_draws v.draws_declared mayDraw_absent
  have result (activity : Activity) (condition : ContractResult → Bool) :
      Finding.IsDrawn v
        ⟨activity, v.plainResultAmount condition, .absent, some invocation.function⟩ :=
    isDrawn_of_draws (v.draws_plainResultAmount condition) mayDraw_absent
  -- units that are read are drawn whatever they are
  have read : Yields (fun _ => True) (firstAmount invocation) := fun _ _ => trivial
  unfold findGeneric
  cases ContractFunction.ofName? invocation.function with
  | none => exact yields_ok (plain _)
  | some f =>
    cases f
    case unDelegate | unStake | modifyTotalDelegationCap =>
      refine read.bind fun units _ => ?_
      exact yields_ok (isDrawn_of_draws (draws_native units) mayDraw_absent)
    case changeServiceFee =>
      refine read.bind fun units _ => ?_
      exact yields_ok ⟨.inr ⟨rfl, units, rfl⟩, mayDraw_absent⟩
    case claimRewards | reDelegateRewards | withdraw | unBond => exact yields_ok (result _ _)
    case wrapEgld =>
      refine v.draws_plainTransferAmounts.bind fun amounts all => ?_
      exact yields_ok (isDrawn_of_draws v.draws_declared
        (headD_of_forall (mayDraw_of_mem all) mayDraw_absent))
    all_goals exact yields_ok (plain _)

/-- The amounts of a finding are drawn, if the tokens of the call are named. -/
theorem draws_findCall {call : Call} (named : ∀ p ∈ call.payments, p.token ∈ v.tokens) :
    Yields (Finding.IsDrawn v) (v.find call) := by
  cases call with
  | transfer token amount called =>
    exact draws_findTransfer (named _ (List.mem_singleton.mpr rfl)) _
  | itemTransfer payment destination called =>
    exact draws_findItemTransfer (named _ (List.mem_singleton.mpr rfl)) _
  | multiTransfer destination payments called =>
    exact yields_ok (draws_findMultiTransfer named _)
  | generic invocation => exact v.draws_findGeneric invocation

theorem draws_findPayload {data : String} (payload : v.transaction.payload? = some data) :
    Yields (fun found => Finding.IsDrawn v found.2) (v.findPayload data) := by
  unfold findPayload
  cases read : Call.ofPayload data with
  | error e => exact yields_error e
  | ok call =>
    have named : ∀ p ∈ call.payments, p.token ∈ v.tokens := fun p member =>
      token_mem_referencedTokens_of_payload payload read member
    exact (draws_findCall named).bind fun finding drawn => yields_ok drawn

/-- The amounts of a classified transaction are drawn, unless one is a service fee. -/
theorem draws_classified (v : Viewpoint) :
    (v.Draws v.classified.effective ∨ v.classified.activity = .changeServiceFee ∧
        ∃ units, v.classified.effective = .of units feeDecimals feeUnit) ∧
      v.MayDraw v.classified.other := by
  unfold classified
  split
  · split
    · exact ⟨.inl v.draws_declared, mayDraw_absent⟩
    · next data payload =>
      split
      · next call finding found =>
        have drawn : Finding.IsDrawn v finding := draws_findPayload payload _ found
        exact ⟨drawn.effective, drawn.other⟩
      · exact ⟨.inl v.draws_declared, mayDraw_absent⟩
  · exact ⟨.inl v.draws_declared, mayDraw_absent⟩

/-- So the effective amount is of a named token, unless it is a service fee. -/
theorem effective_token_mem (v : Viewpoint) :
    v.classified.effective.token ∈ v.tokens ∨
      v.classified.activity = .changeServiceFee ∧ v.classified.effective.token = feeUnit := by
  rcases v.draws_classified.1 with drawn | ⟨activity, units, fee⟩
  · exact .inl drawn.token_mem
  · exact .inr ⟨activity, congrArg TokenAmount.token fee⟩

/-- So is the other amount, if it applies. -/
theorem other_token_mem (v : Viewpoint) (present : v.classified.other.isAbsent = false) :
    v.classified.other.token ∈ v.tokens := by
  rcases v.draws_classified.2 with drawn | absent
  · exact drawn.token_mem
  · rw [absent] at present
    cases present

end Viewpoint

/-- The amounts that all transfers among results move are of named tokens. -/
theorem token_mem_of_mem_transferAmounts {decimals : Decimals} {rs : List ContractResult}
    {amounts : List TokenAmount} (read : transferAmounts decimals rs = .ok amounts)
    (tx : Transaction) {a : TokenAmount} (member : a ∈ amounts) :
    a.token ∈ referencedTokens tx rs := by
  unfold transferAmounts at read
  cases paid : paymentsOf (fun _ => true) rs with
  | error e =>
    rw [paid] at read
    cases read
  | ok ps =>
    rw [paid] at read
    obtain rfl := Except.ok.inj read
    obtain ⟨p, moved, rfl⟩ := List.mem_map.mp member
    rw [Payment.value, TokenAmount.token_ofUnitsOrZero]
    exact token_mem_referencedTokens_of_results (fun _ among => among) paid moved

/-- The tokens that a transaction and its results name cover what a classification does with
tokens.  Two lookups that give the same decimal places for them give the transaction the same
meaning; every amount that the results move is of one of them; and so is every amount of the
classified transaction, but for a service fee. -/
theorem referencedTokens_cover (tx : Transaction) (rs : List ContractResult)
    (account : Option String) :
    (∀ d e : Decimals, (∀ token ∈ referencedTokens tx rs, d token = e token) →
        classify d account tx rs = classify e account tx rs) ∧
      ∀ d : Decimals,
        (∀ amounts, transferAmounts d rs = .ok amounts →
          ∀ a ∈ amounts, a.token ∈ referencedTokens tx rs) ∧
        ((classify d account tx rs).effective.isAbsent = false →
          (classify d account tx rs).effective.token ∈ referencedTokens tx rs ∨
            (classify d account tx rs).activity = .changeServiceFee ∧
              (classify d account tx rs).effective.token = feeUnit) ∧
        ((classify d account tx rs).other.isAbsent = false →
          (classify d account tx rs).other.token ∈ referencedTokens tx rs) := by
  constructor
  · intro d e agree
    exact classify_congr agree account
  · intro d
    let v : Viewpoint := ⟨tx, rs, account.getD tx.sender, d⟩
    refine ⟨?_, fun _ => v.effective_token_mem, v.other_token_mem⟩
    intro amounts read a member
    exact token_mem_of_mem_transferAmounts read tx member

/-- Two lookups that know the tokens of a transfer, but not the same other tokens. -/
theorem referencedTokens_cover_of_two_lookups :
    let tx : Transaction := { data := some "RVNEVFRyYW5zZmVyQDU0NGY0YjJkNjE2MjYzQDBh" }
    let d : Decimals := fun token => if token = "EGLD" ∨ token = "TOK-abc" then some 6 else none
    let e : Decimals := fun _ => some 6
    d "USD-abc" ≠ e "USD-abc" ∧ classify d none tx [] = classify e none tx [] := by
  intro tx d e
  have named : referencedTokens tx [] = ["EGLD", "TOK-abc"] := by decide +kernel
  refine ⟨by decide, (referencedTokens_cover tx [] none).1 d e ?_⟩
  rw [named]
  decide

end ChainActivity
