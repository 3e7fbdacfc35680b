import ChainActivity.Classification.Basic

/-!
# Decimal places that a classification looks up

A classification looks up the decimal places of tokens that the transaction and its
results name, and of no others.

## Main definitions

* `Viewpoint.tokens` — the tokens that a transaction and its results name.
* `Viewpoint.withDecimals` — the same view with other decimal places.

## Main statements

* `token_mem_referencedTokens_of_payload`, `token_mem_referencedTokens_of_results` —
  every payment that is looked at is one of a token that is named.
* `Viewpoint.find_withDecimals` — the finding for a call depends on named tokens only.
* `classify_congr` — so does the meaning of a transaction.

## Design notes

Amounts enter a finding in three ways: the declared amount and other amounts of the
native token, the payments of the call itself, and the payments of results.  There is
one lemma for each way, and the findings are then compared shape by shape.
-/

namespace ChainActivity

/-! ### Amounts -/

/-- An amount in units depends on the decimal places of its token only. -/
theorem TokenAmount.ofUnits_congr {d e : Decimals} {token : String} (same : d token = e token)
    (units : Amount) : ofUnits d token units = ofUnits e token units := by
  rw [ofUnits, ofUnits, same]

/-- So does the amount that falls back to zero. -/
theorem TokenAmount.ofUnitsOrZero_congr {d e : Decimals} {token : String}
    (same : d token = e token) (units : Amount) :
    ofUnitsOrZero d token units = ofUnitsOrZero e token units := by
  rw [ofUnitsOrZero, ofUnitsOrZero, ofUnits_congr same]

/-- So does an amount that is given in decimal digits. -/
theorem TokenAmount.ofDecimalOrZero_congr {d e : Decimals} {token : String}
    (same : d token = e token) (text : String) :
    ofDecimalOrZero d token text = ofDecimalOrZero e token text := by
  rw [ofDecimalOrZero, ofDecimalOrZero, ofDecimal, ofDecimal, ofText, ofText]
  cases Amount.ofText 10 text with
  | error fault => rfl
  | ok units => exact congrArg (orElse · (zero token)) (ofUnits_congr same units)

/-- The amounts of payments depend on the decimal places of their tokens only. -/
theorem Payment.map_value_congr {d e : Decimals} {ps : List Payment}
    (same : ∀ p ∈ ps, d p.token = e p.token) : ps.map (value d) = ps.map (value e) :=
  List.map_congr_left fun p member => TokenAmount.ofUnitsOrZero_congr (same p member) p.amount

/-! ### Named tokens -/

section Named

variable {tx : Transaction} {rs : List ContractResult} {data : String} {call : Call} {p : Payment}

theorem native_mem_referencedTokens (tx : Transaction) (rs : List ContractResult) :
    Token.native ∈ referencedTokens tx rs :=
  List.mem_cons_self

/-- The tokens of a payload that can be read are those of its payments. -/
theorem token_mem_tokens (read : Call.ofPayload data = .ok call) (member : p ∈ call.payments) :
    p.token ∈ Payload.tokens data := by
  rw [Payload.tokens, read]
  exact List.mem_map_of_mem member

/-- The tokens that a payload moves are named. -/
theorem token_mem_referencedTokens_of_payload (payload : tx.payload? = some data)
    (read : Call.ofPayload data = .ok call) (member : p ∈ call.payments) :
    p.token ∈ referencedTokens tx rs := by
  have found : data ∈ tx.payload?.toList ++ rs.filterMap ContractResult.data := by
    rw [payload]
    exact List.mem_append_left _ (List.mem_singleton.mpr rfl)
  exact List.mem_cons_of_mem _ (List.mem_flatMap.mpr ⟨data, found, token_mem_tokens read member⟩)

/-- A text that begins like a transfer is the text of the payload. -/
theorem ContractResult.data_of_transferText? {r : ContractResult} {text : String}
    (transfer : r.transferText? = some text) :
    ∃ data, r.data = some data ∧ Payload.text data = .ok text := by
  rw [ContractResult.transferText?, Option.filter_eq_some_iff, Option.bind_eq_some_iff] at transfer
  obtain ⟨⟨data, payload, read⟩, -⟩ := transfer
  rw [ContractResult.payload?, Option.filter_eq_some_iff] at payload
  refine ⟨data, payload.1, ?_⟩
  cases written : Payload.text data with
  | error e => rw [written] at read; exact nomatch read
  | ok other => rw [written] at read; exact congrArg _ (Option.some.inj read)

/-- The tokens that a result moves are named. -/
theorem token_mem_referencedTokens_of_result {keep : Call → Bool} {r : ContractResult}
    {ps : List Payment} (among : r ∈ rs) (read : r.payments keep = .ok ps) (member : p ∈ ps) :
    p.token ∈ referencedTokens tx rs := by
  unfold ContractResult.payments at read
  split at read
  · obtain rfl := Except.ok.inj read
    exact nomatch member
  · next text transfer =>
    obtain ⟨data, declared, written⟩ := ContractResult.data_of_transferText? transfer
    split at read
    · next call parsed =>
      obtain rfl := Except.ok.inj read
      have payment : p ∈ call.payments := by
        split at member
        · exact member
        · exact nomatch member
      have payload : Call.ofPayload data = .ok call := by
        rw [Call.ofPayload, written]
        exact parsed
      have found : data ∈ tx.payload?.toList ++ rs.filterMap ContractResult.data :=
        List.mem_append_right _ (List.mem_filterMap.mpr ⟨r, among, declared⟩)
      exact List.mem_cons_of_mem _
        (List.mem_flatMap.mpr ⟨data, found, token_mem_tokens payload payment⟩)
    · exact nomatch read

/-- The tokens that some of the results move are named. -/
theorem token_mem_referencedTokens_of_results {keep : Call → Bool}
    {considered : List ContractResult} {ps : List Payment} (among : ∀ r ∈ considered, r ∈ rs)
    (read : paymentsOf keep considered = .ok ps) (member : p ∈ ps) :
    p.token ∈ referencedTokens tx rs := by
  induction considered generalizing ps with
  | nil =>
    obtain rfl := Except.ok.inj read
    exact nomatch member
  | cons r rest ih =>
    rw [paymentsOf] at read
    rcases first : r.payments keep with e | front
    · rw [first] at read
      exact nomatch read
    · rcases others : paymentsOf keep rest with e | back
      · rw [first, others] at read
        exact nomatch read
      · rw [first, others] at read
        obtain rfl := Except.ok.inj read
        rcases List.mem_append.mp member with here | there
        · exact token_mem_referencedTokens_of_result (among r List.mem_cons_self) first here
        · exact ih (fun s later => among s (List.mem_cons_of_mem r later)) others there

end Named

/-! ### Findings -/

namespace Viewpoint

/-- The tokens that the transaction and its results name. -/
def tokens (v : Viewpoint) : List String :=
  referencedTokens v.transaction v.results

/-- The same view with other decimal places. -/
def withDecimals (v : Viewpoint) (e : Decimals) : Viewpoint :=
  { v with decimals := e }

variable {v : Viewpoint} {e : Decimals} (agree : ∀ token ∈ v.tokens, e token = v.decimals token)
include agree

theorem agree_native : e Token.native = v.decimals Token.native :=
  agree _ (native_mem_referencedTokens _ _)

theorem nativeAmount_withDecimals (text : String) :
    (v.withDecimals e).nativeAmount text = v.nativeAmount text :=
  TokenAmount.ofDecimalOrZero_congr (agree_native agree) text

theorem declared_withDecimals : (v.withDecimals e).declared = v.declared :=
  nativeAmount_withDecimals agree _

theorem nativeUnits_withDecimals (units : Amount) :
    TokenAmount.ofUnitsOrZero e Token.native units =
      TokenAmount.ofUnitsOrZero v.decimals Token.native units :=
  TokenAmount.ofUnitsOrZero_congr (agree_native agree) units

theorem plainResultAmount_withDecimals (condition : ContractResult → Bool) :
    (v.withDecimals e).plainResultAmount condition = v.plainResultAmount condition := by
  have results : (v.withDecimals e).results = v.results := rfl
  unfold plainResultAmount
  rw [results]
  cases v.results.find? fun r => r.isPlain && condition r with
  | none => exact declared_withDecimals agree
  | some r => exact nativeAmount_withDecimals agree r.value

omit agree in
/-- The results that are looked at for what the account got are results. -/
theorem mem_results_of_mem_considered {r : ContractResult} (member : r ∈ v.consideredResults) :
    r ∈ v.results := by
  unfold consideredResults at member
  split at member
  · exact member
  · next own => exact (List.mem_filter.mp member).1

/-- The amounts that results move depend on named tokens only. -/
theorem amounts_withDecimals {keep : Call → Bool} {considered : List ContractResult}
    (among : ∀ r ∈ considered, r ∈ v.results) :
    ((paymentsOf keep considered).map fun ps => ps.map (Payment.value e)) =
      (paymentsOf keep considered).map fun ps => ps.map (Payment.value v.decimals) := by
  rcases read : paymentsOf keep considered with fault | ps
  · rfl
  · have same : ∀ p ∈ ps, e p.token = v.decimals p.token := fun p member =>
      agree _ (token_mem_referencedTokens_of_results among read member)
    exact congrArg Except.ok (Payment.map_value_congr same)

theorem plainTransferAmounts_withDecimals :
    (v.withDecimals e).plainTransferAmounts = v.plainTransferAmounts :=
  amounts_withDecimals agree fun _ => mem_results_of_mem_considered

theorem transferAmounts_withDecimals :
    transferAmounts e v.results = transferAmounts v.decimals v.results :=
  amounts_withDecimals agree fun _ member => member

/-- The finding for a transfer of a plain token. -/
theorem findTransfer_withDecimals {p : Payment} (known : e p.token = v.decimals p.token)
    (function : Option String) :
    (v.withDecimals e).findTransfer p function = v.findTransfer p function := by
  have amount : p.value e = p.value v.decimals := TokenAmount.ofUnitsOrZero_congr known p.amount
  have units := nativeUnits_withDecimals agree p.amount
  simp only [findTransfer, plainTransferAmounts_withDecimals agree]
  simp only [withDecimals, amount, units]
  rfl

/-- The finding for a transfer of an item. -/
theorem findItemTransfer_withDecimals {p : Payment} (known : e p.token = v.decimals p.token)
    (function : Option String) :
    (v.withDecimals e).findItemTransfer p function = v.findItemTransfer p function := by
  have amount : p.value e = p.value v.decimals := TokenAmount.ofUnitsOrZero_congr known p.amount
  have amounts := transferAmounts_withDecimals agree
  simp only [findItemTransfer, withDecimals, amount, amounts]
  rfl

/-- The finding for a transfer of several tokens. -/
theorem findMultiTransfer_withDecimals {ps : List Payment}
    (known : ∀ p ∈ ps, e p.token = v.decimals p.token) (function : Option String) :
    (v.withDecimals e).findMultiTransfer ps function = v.findMultiTransfer ps function := by
  have amounts : ps.map (Payment.value e) = ps.map (Payment.value v.decimals) :=
    Payment.map_value_congr known
  simp only [findMultiTransfer, declared_withDecimals agree]
  simp only [withDecimals, amounts]
  rfl

/-- The finding for a call that moves no tokens. -/
theorem findGeneric_withDecimals (invocation : Invocation) :
    (v.withDecimals e).findGeneric invocation = v.findGeneric invocation := by
  have units := nativeUnits_withDecimals agree
  have plain := plainResultAmount_withDecimals agree
  simp only [findGeneric, declared_withDecimals agree, plainTransferAmounts_withDecimals agree,
    plain]
  simp only [withDecimals, units]
  rfl

/-- The finding for a call depends on named tokens only, if those of the call are
named. -/
theorem find_withDecimals {call : Call}
    (known : ∀ p ∈ call.payments, e p.token = v.decimals p.token) :
    (v.withDecimals e).find call = v.find call := by
  cases call with
  | transfer token amount called =>
    exact findTransfer_withDecimals agree (known _ (List.mem_singleton.mpr rfl)) _
  | itemTransfer payment destination called =>
    exact findItemTransfer_withDecimals agree (known _ (List.mem_singleton.mpr rfl)) _
  | multiTransfer destination payments called =>
    exact congrArg Except.ok (findMultiTransfer_withDecimals agree known _)
  | generic invocation => exact findGeneric_withDecimals agree invocation

/-- The call of a payload and its finding depend on named tokens only. -/
theorem findPayload_withDecimals {data : String} (payload : v.transaction.payload? = some data) :
    (v.withDecimals e).findPayload data = v.findPayload data := by
  rw [findPayload, findPayload]
  rcases read : Call.ofPayload data with fault | call
  · rfl
  · have known : ∀ p ∈ call.payments, e p.token = v.decimals p.token := fun p member =>
      agree _ (token_mem_referencedTokens_of_payload payload read member)
    simp only [bind, Except.bind, find_withDecimals agree known]

theorem asDeclared_withDecimals (activity : Activity) :
    (v.withDecimals e).asDeclared activity = v.asDeclared activity := by
  rw [asDeclared, asDeclared, declared_withDecimals agree]
  rfl

/-- The meaning of a transaction depends on named tokens only. -/
theorem classified_withDecimals : (v.withDecimals e).classified = v.classified := by
  have declared := asDeclared_withDecimals agree
  have marks : (v.withDecimals e).hasContractMarks = v.hasContractMarks := rfl
  have payloads : (v.withDecimals e).transaction.payload? = v.transaction.payload? := rfl
  rw [classified, classified, marks, payloads]
  by_cases marked : v.hasContractMarks
  · rw [if_pos marked, if_pos marked]
    rcases payload : v.transaction.payload? with _ | data
    · exact declared v.plainActivity
    · have found := findPayload_withDecimals agree payload
      have findings : ∀ call finding,
          (v.withDecimals e).withFinding call finding = v.withFinding call finding :=
        fun _ _ => rfl
      simp only [found, declared, findings]
  · rw [if_neg marked, if_neg marked]
    exact declared v.direction

end Viewpoint

/-- Two lookups that give the same decimal places for the tokens that a transaction and
its results name give the transaction the same meaning. -/
theorem classify_congr {d e : Decimals} {tx : Transaction} {rs : List ContractResult}
    (agree : ∀ token ∈ referencedTokens tx rs, d token = e token) (account : Option String) :
    classify d account tx rs = classify e account tx rs :=
  Viewpoint.classified_withDecimals (v := ⟨tx, rs, account.getD tx.sender, e⟩) agree

end ChainActivity
