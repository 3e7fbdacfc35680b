import ChainActivity.Proofs.Classification.Decimals
import Mathlib.Data.List.Forall2

/-!
# Two lookups of decimal places

The same transaction is classified twice, each time with decimal places of its own.
The two meanings are about the same tokens, and about the same numbers of units unless
one of the lookups does not know a token.

## Main definitions

* `TokenAmount.Alike` — two amounts that come from one number of units.
* `Finding.Alike` — two findings of one activity, with such amounts.
* `TokenAmount.Agrees` — what can be seen of two such amounts.

## Main statements

* `TokenAmount.sub_ofUnitsOrZero` — differences are taken alike by every lookup.
* `Viewpoint.alike_find` — what is found for a call with the one lookup and with the other.
* `agrees_classify` — what the decimal places can change about a classified transaction.

## Design notes

`Alike` says where two amounts come from and not how they compare.  Equal units would
not do as an invariant: a swap takes one amount from another, and if a lookup does not
know their token it takes zero from zero where the other takes units from units.
-/

namespace ChainActivity

variable {d e : Decimals} {tokens : List String}

/-! ### Amounts -/

namespace TokenAmount

/-- Two amounts that come from one number of units, by two lookups of decimal places.
Only tokens of a list are looked up. -/
inductive Alike (d e : Decimals) (tokens : List String) : TokenAmount → TokenAmount → Prop
  /-- Nothing is looked up. -/
  | same (a : TokenAmount) : Alike d e tokens a a
  /-- The decimal places of one token are looked up twice. -/
  | looked {token : String} (named : token ∈ tokens) (units : Amount) :
    Alike d e tokens (ofUnitsOrZero d token units) (ofUnitsOrZero e token units)

/-- An amount that falls back to zero has its units if the token is known. -/
theorem units_ofUnitsOrZero (d : Decimals) (token : String) (units : Amount) :
    (ofUnitsOrZero d token units).units = if (d token).isSome then units else .zero := by
  rw [ofUnitsOrZero, ofUnits]
  cases d token <;> rfl

/-- The difference of two amounts of one token is the difference of their units, or the
first amount if there is none.  This holds for tokens that are not known as well. -/
theorem sub_ofUnitsOrZero (d : Decimals) (token : String) (units taken : Amount) :
    (ofUnitsOrZero d token units).sub (ofUnitsOrZero d token taken) =
      ofUnitsOrZero d token ((units.sub? taken).getD units) := by
  rw [sub, checkedSub, combine, if_pos (by rw [token_ofUnitsOrZero, token_ofUnitsOrZero])]
  simp only [ofUnitsOrZero, ofUnits]
  cases d token with
  | none => rfl
  | some places =>
    simp only [orElse, units_of]
    cases units.sub? taken <;> rfl

namespace Alike

variable {a b : TokenAmount}

theorem token_eq (alike : Alike d e tokens a b) : a.token = b.token := by
  cases alike with
  | same => rfl
  | looked => rw [token_ofUnitsOrZero, token_ofUnitsOrZero]

theorem isAbsent_eq (alike : Alike d e tokens a b) : a.isAbsent = b.isAbsent := by
  rw [isAbsent, isAbsent, alike.token_eq]

/-- Amounts of known tokens have equal units. -/
theorem units_eq (alike : Alike d e tokens a b)
    (known : ∀ token ∈ tokens, (d token).isSome ∧ (e token).isSome) : a.units = b.units := by
  cases alike with
  | same => rfl
  | @looked token named units =>
    obtain ⟨one, two⟩ := known token named
    rw [units_ofUnitsOrZero, units_ofUnitsOrZero, if_pos one, if_pos two]

/-- If the units differ, one of them is zero, because its lookup does not know the
token. -/
theorem units_cases (alike : Alike d e tokens a b) :
    a.units = b.units ∨ (d a.token = none ∧ a.units = .zero) ∨
      (e b.token = none ∧ b.units = .zero) := by
  cases alike with
  | same => exact .inl rfl
  | @looked token named units =>
    rw [token_ofUnitsOrZero, token_ofUnitsOrZero, units_ofUnitsOrZero, units_ofUnitsOrZero]
    rcases d token with _ | places
    · exact .inr (.inl ⟨rfl, rfl⟩)
    · rcases e token with _ | places
      · exact .inr (.inr ⟨rfl, rfl⟩)
      · exact .inl rfl

/-- The payments of named tokens. -/
theorem payment {p : Payment} (named : p.token ∈ tokens) :
    Alike d e tokens (p.value d) (p.value e) :=
  looked named p.amount

/-- Amounts that are given in decimal digits: a text that is no number is zero for
both. -/
theorem ofDecimalOrZero {token : String} (named : token ∈ tokens) (text : String) :
    Alike d e tokens (ofDecimalOrZero d token text) (ofDecimalOrZero e token text) := by
  unfold TokenAmount.ofDecimalOrZero ofDecimal ofText
  cases Amount.ofText 10 text with
  | error fault => exact same _
  | ok units => exact looked named units

/-! Lists of amounts are compared one by one. -/

section Lists

variable {as bs : List TokenAmount}

theorem payments {ps : List Payment} (named : ∀ p ∈ ps, p.token ∈ tokens) :
    List.Forall₂ (Alike d e tokens) (ps.map (Payment.value d)) (ps.map (Payment.value e)) := by
  induction ps with
  | nil => exact .nil
  | cons p rest ih =>
    exact .cons (payment (named p List.mem_cons_self))
      (ih fun q member => named q (List.mem_cons_of_mem p member))

theorem headD (all : List.Forall₂ (Alike d e tokens) as bs) (otherwise : Alike d e tokens a b) :
    Alike d e tokens (as.headD a) (bs.headD b) := by
  cases all with
  | nil => exact otherwise
  | cons first _ => exact first

/-- The first amounts whose tokens satisfy a condition stand at one place. -/
theorem find (all : List.Forall₂ (Alike d e tokens) as bs) (otherwise : Alike d e tokens a b)
    {condition : TokenAmount → Bool}
    (byToken : ∀ {x y : TokenAmount}, x.token = y.token → condition x = condition y) :
    Alike d e tokens ((as.find? condition).getD a) ((bs.find? condition).getD b) := by
  induction all with
  | nil => exact otherwise
  | @cons x y _ _ first _ ih =>
    rw [List.find?_cons, List.find?_cons, byToken first.token_eq]
    split
    · exact first
    · exact ih

end Lists

end Alike

end TokenAmount

/-! ### Swaps -/

namespace Viewpoint

open TokenAmount (Alike)

/-- What an output does to what a swap has left and what it has bought. -/
def netStep (token : String) (balance : TokenAmount × TokenAmount) (output : TokenAmount) :
    TokenAmount × TokenAmount :=
  if output.token = token then (balance.1.sub output, balance.2)
  else if balance.2.isAbsent then (balance.1, output)
  else balance

theorem netSwap_eq (sold : TokenAmount) (outputs : List TokenAmount) :
    netSwap sold outputs = outputs.foldl (netStep sold.token) (sold, .absent) :=
  rfl

/-- The outputs of a swap leave the sold units, less what came back, in both lookups;
and what they buy is alike. -/
theorem alike_netSteps (token : String) (units : Amount) {ps : List Payment}
    (named : ∀ p ∈ ps, p.token ∈ tokens) {a b : TokenAmount} (bought : Alike d e tokens a b) :
    ∃ left x y, Alike d e tokens x y ∧
      (ps.map (Payment.value d)).foldl (netStep token) (.ofUnitsOrZero d token units, a) =
        (.ofUnitsOrZero d token left, x) ∧
      (ps.map (Payment.value e)).foldl (netStep token) (.ofUnitsOrZero e token units, b) =
        (.ofUnitsOrZero e token left, y) := by
  induction ps generalizing units a b with
  | nil => exact ⟨units, a, b, bought, rfl, rfl⟩
  | cons p rest ih =>
    have others : ∀ q ∈ rest, q.token ∈ tokens := fun q member =>
      named q (List.mem_cons_of_mem p member)
    have tokenOf : ∀ lookup : Decimals, (p.value lookup).token = p.token := fun _ =>
      TokenAmount.token_ofUnitsOrZero _ _ _
    simp only [List.map_cons, List.foldl_cons, netStep, tokenOf]
    by_cases refund : p.token = token
    · subst refund
      simp only [if_true, Payment.value, TokenAmount.sub_ofUnitsOrZero]
      exact ih _ others bought
    · rw [if_neg refund, if_neg refund, bought.isAbsent_eq]
      by_cases absent : b.isAbsent
      · rw [if_pos absent, if_pos absent]
        exact ih units others (.payment (named p List.mem_cons_self))
      · rw [if_neg absent, if_neg absent]
        exact ih units others bought

/-- What a swap sold and bought is alike. -/
theorem alike_netSwap {p : Payment} (paid : p.token ∈ tokens) {ps : List Payment}
    (named : ∀ q ∈ ps, q.token ∈ tokens) :
    let one := netSwap (p.value d) (ps.map (Payment.value d))
    let two := netSwap (p.value e) (ps.map (Payment.value e))
    Alike d e tokens one.1 two.1 ∧ Alike d e tokens one.2 two.2 := by
  have tokenOf : ∀ lookup : Decimals, (p.value lookup).token = p.token := fun _ =>
    TokenAmount.token_ofUnitsOrZero _ _ _
  obtain ⟨left, x, y, bought, one, two⟩ :=
    alike_netSteps p.token p.amount named (.same (d := d) (e := e) .absent)
  have paid' : ∀ lookup : Decimals, p.value lookup = .ofUnitsOrZero lookup p.token p.amount :=
    fun _ => rfl
  simp only [netSwap_eq, tokenOf]
  rw [paid' d, paid' e, one, two]
  exact ⟨.looked paid left, bought⟩

end Viewpoint

/-! ### Readings -/

/-- Two readings fail alike, or both succeed with values that are related. -/
def ReadAlike {ε α β : Type} (related : α → β → Prop) : Except ε α → Except ε β → Prop
  | .ok a, .ok b => related a b
  | .error e, .error e' => e = e'
  | _, _ => False

/-- What is made of related values is made alike. -/
theorem ReadAlike.bind {ε α β γ δ : Type} {related : α → β → Prop} {related' : γ → δ → Prop}
    {one : Except ε α} {two : Except ε β} {make : α → Except ε γ} {make' : β → Except ε δ}
    (alike : ReadAlike related one two)
    (makes : ∀ a b, related a b → ReadAlike related' (make a) (make' b)) :
    ReadAlike related' (one.bind make) (two.bind make') := by
  cases one with
  | error e =>
    cases two with
    | error e' => exact alike
    | ok b => exact alike.elim
  | ok a =>
    cases two with
    | error e' => exact alike.elim
    | ok b => exact makes a b alike

/-- Two lists of amounts that some payments of named tokens move. -/
def AmountsAlike (d e : Decimals) (tokens : List String) (as bs : List TokenAmount) : Prop :=
  ∃ ps : List Payment, (∀ p ∈ ps, p.token ∈ tokens) ∧
    as = ps.map (Payment.value d) ∧ bs = ps.map (Payment.value e)

/-- Such amounts are alike one by one. -/
theorem AmountsAlike.forall₂ {as bs : List TokenAmount} (alike : AmountsAlike d e tokens as bs) :
    List.Forall₂ (TokenAmount.Alike d e tokens) as bs := by
  obtain ⟨ps, named, rfl, rfl⟩ := alike
  exact TokenAmount.Alike.payments named

/-! ### Findings -/

/-- Two findings of one activity and one function, whose amounts come from the same units. -/
structure Finding.Alike (d e : Decimals) (tokens : List String) (f g : Finding) : Prop where
  activity : f.activity = g.activity
  effective : TokenAmount.Alike d e tokens f.effective g.effective
  other : TokenAmount.Alike d e tokens f.other g.other
  function : f.function = g.function

namespace Viewpoint

open TokenAmount (Alike)

variable (v : Viewpoint) (e)

theorem native_mem_tokens : Token.native ∈ v.tokens :=
  native_mem_referencedTokens _ _

theorem alike_nativeAmount (text : String) :
    Alike v.decimals e v.tokens (v.nativeAmount text) ((v.withDecimals e).nativeAmount text) :=
  .ofDecimalOrZero v.native_mem_tokens text

theorem alike_declared :
    Alike v.decimals e v.tokens v.declared (v.withDecimals e).declared :=
  v.alike_nativeAmount e v.transaction.value

theorem alike_plainResultAmount (condition : ContractResult → Bool) :
    Alike v.decimals e v.tokens (v.plainResultAmount condition)
      ((v.withDecimals e).plainResultAmount condition) := by
  have results : (v.withDecimals e).results = v.results := rfl
  unfold plainResultAmount
  rw [results]
  cases v.results.find? fun r => r.isPlain && condition r with
  | none => exact v.alike_declared e
  | some r => exact v.alike_nativeAmount e r.value

variable {v}

/-- The amounts that results move are read alike. -/
theorem alike_amounts (keep : Call → Bool) {considered : List ContractResult}
    (among : ∀ r ∈ considered, r ∈ v.results) :
    ReadAlike (AmountsAlike v.decimals e v.tokens)
      ((paymentsOf keep considered).map fun ps => ps.map (Payment.value v.decimals))
      ((paymentsOf keep considered).map fun ps => ps.map (Payment.value e)) := by
  rcases read : paymentsOf keep considered with fault | ps
  · exact rfl
  · have named : ∀ p ∈ ps, p.token ∈ v.tokens := fun p member =>
      token_mem_referencedTokens_of_results among read member
    exact ⟨ps, named, rfl, rfl⟩

theorem alike_plainTransferAmounts :
    ReadAlike (AmountsAlike v.decimals e v.tokens) v.plainTransferAmounts
      (v.withDecimals e).plainTransferAmounts :=
  alike_amounts e _ fun _ => mem_results_of_mem_considered

theorem alike_transferAmounts :
    ReadAlike (AmountsAlike v.decimals e v.tokens) (transferAmounts v.decimals v.results)
      (transferAmounts e v.results) :=
  alike_amounts e _ fun _ member => member

/-- The first two amounts of a list, the first of which has a substitute. -/
theorem alike_firstTwo {as bs : List TokenAmount} {a b : TokenAmount} {activity : Activity}
    {function : Option String} (all : AmountsAlike v.decimals e v.tokens as bs)
    (otherwise : Alike v.decimals e v.tokens a b) :
    Finding.Alike v.decimals e v.tokens
      ⟨activity, as.headD a, (as.drop 1).headD .absent, function⟩
      ⟨activity, bs.headD b, (bs.drop 1).headD .absent, function⟩ where
  activity := rfl
  effective := .headD all.forall₂ otherwise
  other := .headD (List.forall₂_drop 1 all.forall₂) (.same _)
  function := rfl

/-- The finding for a transfer of a plain token. -/
theorem alike_findTransfer {p : Payment} (named : p.token ∈ v.tokens) (function : Option String) :
    ReadAlike (Finding.Alike v.decimals e v.tokens) (v.findTransfer p function)
      ((v.withDecimals e).findTransfer p function) := by
  have amount : Alike v.decimals e v.tokens (p.value v.decimals) (p.value e) := .payment named
  cases function with
  | none => exact ⟨rfl, amount, .same _, rfl⟩
  | some name =>
    simp only [findTransfer]
    cases ContractFunction.ofName? name with
    | none => exact ⟨rfl, amount, .same _, rfl⟩
    | some f =>
      cases f
      case swapTokensFixedInput | swapTokensFixedOutput =>
        refine (alike_plainTransferAmounts e).bind fun as bs all => ?_
        obtain ⟨ps, others, rfl, rfl⟩ := all
        obtain ⟨sold, bought⟩ := alike_netSwap (d := v.decimals) (e := e) named others
        exact ⟨rfl, sold, bought, rfl⟩
      case removeLiquidity =>
        exact (alike_plainTransferAmounts e).bind fun as bs all => alike_firstTwo e all amount
      case unwrapEgld => exact ⟨rfl, amount, .looked v.native_mem_tokens _, rfl⟩
      all_goals exact ⟨rfl, amount, .same _, rfl⟩

/-- The finding for a transfer of an item. -/
theorem alike_findItemTransfer {p : Payment} (named : p.token ∈ v.tokens)
    (function : Option String) :
    ReadAlike (Finding.Alike v.decimals e v.tokens) (v.findItemTransfer p function)
      ((v.withDecimals e).findItemTransfer p function) := by
  have amount : Alike v.decimals e v.tokens (p.value v.decimals) (p.value e) := .payment named
  have ofCollection : ∀ {x y : TokenAmount}, x.token = y.token →
      isOfCollection p.collection x = isOfCollection p.collection y := by
    intro x y same
    rw [isOfCollection, isOfCollection, same]
  cases function with
  | none => exact ⟨rfl, amount, .same _, rfl⟩
  | some name =>
    simp only [findItemTransfer]
    cases ContractFunction.ofName? name with
    | none => exact ⟨rfl, amount, .same _, rfl⟩
    | some f =>
      cases f
      case claimRewards | claimRewardsProxy | unlockAssets =>
        refine (alike_transferAmounts e).bind fun as bs all => ⟨rfl, ?_, ?_, rfl⟩
        · exact .find all.forall₂ amount fun same => congrArg (!·) (ofCollection same)
        · exact .find all.forall₂ (.same _) ofCollection
      case exitFarm =>
        exact (alike_transferAmounts e).bind fun as bs all => alike_firstTwo e all amount
      all_goals exact ⟨rfl, amount, .same _, rfl⟩

/-- The finding for a transfer of several tokens. -/
theorem alike_findMultiTransfer {ps : List Payment} (named : ∀ p ∈ ps, p.token ∈ v.tokens)
    (function : Option String) :
    Finding.Alike v.decimals e v.tokens (v.findMultiTransfer ps function)
      ((v.withDecimals e).findMultiTransfer ps function) :=
  alike_firstTwo e ⟨ps, named, rfl, rfl⟩ (v.alike_declared e)

/-- The finding for a call that moves no tokens. -/
theorem alike_findGeneric (invocation : Invocation) :
    ReadAlike (Finding.Alike v.decimals e v.tokens) (v.findGeneric invocation)
      ((v.withDecimals e).findGeneric invocation) := by
  have declared := v.alike_declared e
  have first : ReadAlike Eq (firstAmount invocation) (firstAmount invocation) := by
    cases firstAmount invocation <;> exact rfl
  rw [findGeneric, findGeneric]
  cases ContractFunction.ofName? invocation.function with
  | none => exact ⟨rfl, declared, .same _, rfl⟩
  | some f =>
    cases f
    case unDelegate | unStake | modifyTotalDelegationCap =>
      refine first.bind fun units units' same => ?_
      subst same
      exact ⟨rfl, .looked v.native_mem_tokens units, .same _, rfl⟩
    case changeServiceFee =>
      refine first.bind fun units units' same => ?_
      subst same
      exact ⟨rfl, .same _, .same _, rfl⟩
    case claimRewards | reDelegateRewards | withdraw | unBond =>
      exact ⟨rfl, v.alike_plainResultAmount e _, .same _, rfl⟩
    case wrapEgld =>
      exact (alike_plainTransferAmounts e).bind fun as bs all =>
        ⟨rfl, declared, .headD all.forall₂ (.same _), rfl⟩
    all_goals exact ⟨rfl, declared, .same _, rfl⟩

/-- The finding for a call, if the tokens of its payments are named. -/
theorem alike_find {call : Call} (named : ∀ p ∈ call.payments, p.token ∈ v.tokens) :
    ReadAlike (Finding.Alike v.decimals e v.tokens) (v.find call) ((v.withDecimals e).find call) := by
  cases call with
  | transfer token amount called =>
    exact alike_findTransfer e (named _ (List.mem_singleton.mpr rfl)) _
  | itemTransfer payment destination called =>
    exact alike_findItemTransfer e (named _ (List.mem_singleton.mpr rfl)) _
  | multiTransfer destination payments called => exact alike_findMultiTransfer e named _
  | generic invocation => exact alike_findGeneric e invocation

/-- The call of a payload with its finding. -/
theorem alike_findPayload {data : String} (payload : v.transaction.payload? = some data) :
    ReadAlike (fun found found' : Call × Finding =>
        found.1 = found'.1 ∧ Finding.Alike v.decimals e v.tokens found.2 found'.2)
      (v.findPayload data) ((v.withDecimals e).findPayload data) := by
  rw [findPayload, findPayload]
  rcases read : Call.ofPayload data with fault | call
  · exact rfl
  · have named : ∀ p ∈ call.payments, p.token ∈ v.tokens := fun p member =>
      token_mem_referencedTokens_of_payload payload read member
    exact (alike_find e named).bind fun f g alike => ⟨rfl, alike⟩

end Viewpoint

/-! ### Classified transactions -/

/-- Two meanings of one transaction, whose amounts come from the same units. -/
structure ClassifiedTransaction.Alike (d e : Decimals) (tokens : List String)
    (c c' : ClassifiedTransaction) : Prop where
  transaction : c.transaction = c'.transaction
  activity : c.activity = c'.activity
  function : c.function = c'.function
  effective : TokenAmount.Alike d e tokens c.effective c'.effective
  other : TokenAmount.Alike d e tokens c.other c'.other

/-- A transaction is classified alike with other decimal places. -/
theorem Viewpoint.alike_classified (v : Viewpoint) (e : Decimals) :
    v.classified.Alike v.decimals e v.tokens (v.withDecimals e).classified := by
  have asDeclared : ∀ activity, (v.asDeclared activity).Alike v.decimals e v.tokens
      ((v.withDecimals e).asDeclared activity) := fun activity =>
    ⟨rfl, rfl, rfl, v.alike_declared e, .same _⟩
  have marks : (v.withDecimals e).hasContractMarks = v.hasContractMarks := rfl
  have payloads : (v.withDecimals e).transaction.payload? = v.transaction.payload? := rfl
  rw [classified, classified, marks, payloads]
  by_cases marked : v.hasContractMarks
  · rw [if_pos marked, if_pos marked]
    rcases payload : v.transaction.payload? with _ | data
    · exact asDeclared v.plainActivity
    · have found := alike_findPayload e payload
      rcases one : v.findPayload data with fault | ⟨call, finding⟩ <;>
        rcases two : (v.withDecimals e).findPayload data with fault' | ⟨call', finding'⟩ <;>
        rw [one, two] at found
      · simp only [one, two]
        exact asDeclared .unknown
      · exact found.elim
      · exact found.elim
      · obtain ⟨same, findings⟩ := found
        obtain rfl : call = call' := same
        have named : some (finding.function.getD call.name) =
            some (finding'.function.getD call.name) := by
          rw [findings.function]
        simp only [one, two]
        exact ⟨rfl, findings.activity, named, findings.effective, findings.other⟩
  · rw [if_neg marked, if_neg marked]
    exact asDeclared v.direction

/-- What can be seen of two amounts that two lookups give: they are of one token, and of
equal units if both know every token that may be asked for.  If their units differ, one
of the lookups does not know the token and gives no units. -/
structure TokenAmount.Agrees (d e : Decimals) (tokens : List String) (a b : TokenAmount) :
    Prop where
  token : a.token = b.token
  units : (∀ token ∈ tokens, (d token).isSome ∧ (e token).isSome) → a.units = b.units
  zeroed : a.units ≠ b.units →
    (d a.token = none ∧ a.units = .zero) ∨ (e b.token = none ∧ b.units = .zero)

theorem TokenAmount.Alike.agrees {a b : TokenAmount} (alike : Alike d e tokens a b) :
    Agrees d e tokens a b where
  token := alike.token_eq
  units := alike.units_eq
  zeroed differ := alike.units_cases.resolve_left differ

/-- Decimal places change nothing about the meaning of a transaction but how its amounts
are shown: it is about the same tokens, and about the same units if every token that the
transaction and its results name is known.  A lookup that does not know a token gives
none of it. -/
theorem agrees_classify (d e : Decimals) (account : Option String) (tx : Transaction)
    (results : List ContractResult) :
    let one := classify d account tx results
    let two := classify e account tx results
    one.transaction = two.transaction ∧ one.activity = two.activity ∧
      one.function = two.function ∧
      one.effective.Agrees d e (referencedTokens tx results) two.effective ∧
      one.other.Agrees d e (referencedTokens tx results) two.other := by
  intro one two
  have alike : one.Alike d e (referencedTokens tx results) two :=
    Viewpoint.alike_classified ⟨tx, results, account.getD tx.sender, d⟩ e
  exact ⟨alike.transaction, alike.activity, alike.function, alike.effective.agrees,
    alike.other.agrees⟩

end ChainActivity
