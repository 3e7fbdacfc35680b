import ChainActivity.Proofs.Classification.Unreadable
import Mathlib.Data.List.Forall2

/-!
# Transfers among results, one after the other

What results move is what each of them moves, in their order: nothing is lost, counted twice
or moved to another place.  The first result that is no transfer although it begins like one
stops the reading.

## Main definitions

* `inOrder` — two lists that are read one after the other.
* `ContractResult.MovesNothing`, `ContractResult.Denotes` — results without a transfer, and
  the call that a result is.
* `Payload.payments`, `ContractResult.moved` — the payments of the call that a payload or a
  result is.
* `Payment.Gives` — the amount that a payment moves.

## Main statements

* `Call.isTransferText_of_mem_payments` — the text of a call that moves tokens begins like a
  transfer.
* `Viewpoint.hasContractMarks_of_mem_payments` — so contracts take part in its transaction.
* `paymentsOf_append`, `transferAmounts_append` — results are read in order.
* `ContractResult.payments_of_denotes` — every payment of a call is read.
* `paymentsOf_eq_ok` — what is read of results are the payments of their calls.
* `transferAmounts_in_order` — what results move, result by result.

## Design notes

A payload that is no text is passed over, and a text that begins like a transfer and is none
is a fault.  Between the two stand texts that begin like a transfer and are some other call,
such as one whose name only begins with the name of a transfer; they move nothing.
-/

namespace ChainActivity

/-! ### Readings in order -/

section InOrder

variable {ε α β : Type}

/-- Two lists that are read one after the other; what fails first is reported. -/
def inOrder (first second : Except ε (List α)) : Except ε (List α) := do
  let xs ← first
  let ys ← second
  .ok (xs ++ ys)

@[simp] theorem inOrder_ok_ok (xs ys : List α) :
    inOrder (.ok xs : Except ε (List α)) (.ok ys) = .ok (xs ++ ys) := rfl

@[simp] theorem inOrder_error (e : ε) (second : Except ε (List α)) :
    inOrder (.error e) second = .error e := rfl

@[simp] theorem inOrder_ok_error (xs : List α) (e : ε) :
    inOrder (.ok xs) (.error e) = .error e := rfl

@[simp] theorem inOrder_ok_nil (second : Except ε (List α)) :
    inOrder (.ok []) second = second := by
  cases second <;> rfl

theorem inOrder_eq_ok_iff {first second : Except ε (List α)} {zs : List α} :
    inOrder first second = .ok zs ↔
      ∃ xs ys, first = .ok xs ∧ second = .ok ys ∧ xs ++ ys = zs := by
  cases first with
  | error e => simp
  | ok xs => cases second <;> simp

theorem inOrder_assoc (first second third : Except ε (List α)) :
    inOrder (inOrder first second) third = inOrder first (inOrder second third) := by
  cases first with
  | error e => rfl
  | ok xs =>
    cases second with
    | error e => rfl
    | ok ys =>
      cases third with
      | error e => rfl
      | ok zs => simp

theorem map_inOrder (f : α → β) (first second : Except ε (List α)) :
    (inOrder first second).map (List.map f) =
      inOrder (first.map (List.map f)) (second.map (List.map f)) := by
  cases first with
  | error e => rfl
  | ok xs =>
    cases second with
    | error e => rfl
    | ok ys => simp [Except.map]

end InOrder

/-! ### Texts that begin like a transfer -/

/-- The first term of a text stands at its beginning. -/
theorem Call.headD_terms_isPrefix (text : String) :
    ((terms text).headD "").toList <+: text.toList := by
  have joined : ['@'].intercalate (text.toList.splitOn '@') = text.toList :=
    List.intercalate_splitOn '@'
  rw [terms]
  rcases cut : text.toList.splitOn '@' with _ | ⟨first, rest⟩
  · exact List.nil_prefix
  · rw [cut] at joined
    rw [List.map_cons, List.headD_cons, String.toList_ofList, ← joined]
    cases rest with
    | nil => exact ⟨[], by simp⟩
    | cons second rest =>
      rw [List.intercalate_cons_cons, List.append_assoc]
      exact List.prefix_append first _

/-- A call that moves tokens has a text that begins like a transfer. -/
theorem Call.isTransferText_of_mem_payments {text : String} {call : Call} {p : Payment}
    (read : ofText text = .ok call) (member : p ∈ call.payments) : isTransferText text = true := by
  have named : ∀ {name : String}, name ∈ transferNames → (terms text).headD "" = name →
      isTransferText text = true := by
    intro name listed first
    rw [isTransferText, List.any_eq_true]
    exact ⟨name, listed, List.isPrefixOf_iff_prefix.mpr (first ▸ headD_terms_isPrefix text)⟩
  rw [ofText, ofTerms] at read
  split at read
  · next first => exact named (by decide) first
  · split at read
    · next first => exact named (by decide) first
    · split at read
      · next first => exact named (by decide) first
      · obtain rfl := Except.ok.inj read
        cases member

/-- A payload denotes the call of its text. -/
theorem Call.ofPayload_eq_ok_iff {data : String} {call : Call} :
    ofPayload data = .ok call ↔
      ∃ text, Payload.text data = .ok text ∧ ofText text = .ok call := by
  rw [ofPayload]
  cases Payload.text data with
  | error e =>
    constructor
    · intro read
      cases read
    · rintro ⟨text, written, -⟩
      cases written
  | ok text =>
    constructor
    · intro read
      exact ⟨text, rfl, read⟩
    · rintro ⟨text', written, read⟩
      obtain rfl := Except.ok.inj written
      exact read

/-- A payload that moves tokens is not blank. -/
theorem Transaction.payload?_of_mem_payments {tx : Transaction} {data : String} {call : Call}
    {p : Payment} (declared : tx.data = some data) (readable : Call.ofPayload data = .ok call)
    (member : p ∈ call.payments) : tx.payload? = some data := by
  obtain ⟨text, written, read⟩ := Call.ofPayload_eq_ok_iff.mp readable
  have begins := Call.isTransferText_of_mem_payments read member
  rw [payload?, Option.filter_eq_some_iff]
  refine ⟨declared, ?_⟩
  -- a blank payload is the empty text, which begins like no transfer
  rcases blank : allBlank data with _ | _
  · rfl
  · rw [Payload.text_of_allBlank blank] at written
    obtain rfl := Except.ok.inj written
    exact absurd begins (by decide)

/-- It is a mark of contracts. -/
theorem Viewpoint.hasContractMarks_of_mem_payments {v : Viewpoint} {data : String} {call : Call}
    {p : Payment} (payload : v.transaction.payload? = some data)
    (readable : Call.ofPayload data = .ok call) (member : p ∈ call.payments) :
    v.hasContractMarks = true := by
  obtain ⟨text, written, read⟩ := Call.ofPayload_eq_ok_iff.mp readable
  have begins := Call.isTransferText_of_mem_payments read member
  rw [hasContractMarks, hasTransferPayload, payload]
  simp only [written, begins, Bool.or_true]

/-- A payment in a token with known decimal places has them. -/
theorem Payment.value_of_known {decimals : Decimals} {p : Payment} {places : UInt32}
    (known : decimals p.token = some places) :
    p.value decimals = .of p.amount places p.token := by
  rw [value, TokenAmount.ofUnitsOrZero, TokenAmount.ofUnits, known]
  rfl

/-- Whether an amount is what a payment moves: units of its token, and exactly those that it
names if the decimal places of the token are known. -/
structure Payment.Gives (decimals : Decimals) (p : Payment) (a : TokenAmount) : Prop where
  token : a.token = p.token
  units : ∀ places, decimals p.token = some places → a.units = p.amount ∧ a.decimals = places

theorem Payment.gives_value (decimals : Decimals) (p : Payment) :
    p.Gives decimals (p.value decimals) where
  token := TokenAmount.token_ofUnitsOrZero _ _ _
  units places known := by
    rw [value_of_known known]
    exact ⟨rfl, rfl⟩

/-! ### Results -/

/-- A result that moves no tokens, because it is no call of a kind that could. -/
inductive ContractResult.MovesNothing (r : ContractResult) : Prop
  /-- There is no payload. -/
  | absent (undeclared : r.data = none)
  /-- The payload is white space. -/
  | blank {data : String} (declared : r.data = some data) (blank : allBlank data = true)
  /-- The payload is not in base64, or is no text. -/
  | unreadable {data : String} {e : DecodeError} (declared : r.data = some data)
    (unread : Payload.text data = .error e)
  /-- The text does not begin with the name of a transfer. -/
  | unnamed {data text : String} (declared : r.data = some data)
    (written : Payload.text data = .ok text)
    (others : ∀ name ∈ Call.transferNames, ¬ name.toList <+: text.toList)

/-- Whether the payload of a result denotes a call. -/
def ContractResult.Denotes (r : ContractResult) (call : Call) : Prop :=
  ∃ data, r.data = some data ∧ Call.ofPayload data = .ok call

/-- The payments of the call that a payload denotes, if it denotes one. -/
def Payload.payments (data : String) : List Payment :=
  match Call.ofPayload data with
  | .ok call => call.payments
  | .error _ => []

/-- The payments of the call that a result is, if it is one. -/
def ContractResult.moved (r : ContractResult) : List Payment :=
  r.data.elim [] Payload.payments

namespace ContractResult

variable {r : ContractResult} {keep : Call → Bool} {call : Call}

/-- A result whose text is not that of a transfer has no payments. -/
theorem payments_of_transferText?_eq_none (silent : r.transferText? = none) :
    r.payments keep = .ok [] := by
  rw [payments, silent]

theorem MovesNothing.transferText?_eq_none (mute : r.MovesNothing) : r.transferText? = none := by
  rw [Option.eq_none_iff_forall_not_mem]
  intro text transfer
  obtain ⟨data, declared, written, begins⟩ := transferText?_eq_some_iff.mp transfer
  cases mute with
  | absent undeclared =>
    rw [undeclared] at declared
    cases declared
  | blank declared' blank =>
    obtain rfl := Option.some.inj (declared.symm.trans declared')
    obtain rfl := Except.ok.inj ((Payload.text_of_allBlank blank).symm.trans written)
    exact absurd begins (by decide)
  | unreadable declared' unread =>
    obtain rfl := Option.some.inj (declared.symm.trans declared')
    cases unread.symm.trans written
  | unnamed declared' written' others =>
    obtain rfl := Option.some.inj (declared.symm.trans declared')
    obtain rfl := Except.ok.inj (written'.symm.trans written)
    obtain ⟨name, listed, front⟩ := List.any_eq_true.mp begins
    exact others name listed (List.isPrefixOf_iff_prefix.mp front)

/-- A result that is a call has the payments of that call. -/
theorem payments_of_denotes (denotes : r.Denotes call) :
    r.payments (fun _ => true) = .ok call.payments := by
  obtain ⟨data, declared, readable⟩ := denotes
  obtain ⟨text, written, read⟩ := Call.ofPayload_eq_ok_iff.mp readable
  cases transfer : r.transferText? with
  | some text' =>
    obtain ⟨data', declared', written', -⟩ := transferText?_eq_some_iff.mp transfer
    obtain rfl := Option.some.inj (declared.symm.trans declared')
    obtain rfl := Except.ok.inj (written.symm.trans written')
    rw [payments, transfer]
    simp only [read, if_true]
  | none =>
    -- a call with a payment would begin like a transfer
    have unpaid : call.payments = [] := by
      rw [List.eq_nil_iff_forall_not_mem]
      intro p member
      have begins := Call.isTransferText_of_mem_payments read member
      have found := transferText?_eq_some_iff.mpr ⟨data, declared, written, begins⟩
      cases transfer.symm.trans found
    rw [payments_of_transferText?_eq_none transfer, unpaid]

/-- A result that is a call is not broken. -/
theorem Denotes.not_isBroken (denotes : r.Denotes call) : ¬ r.IsBroken := by
  rintro ⟨data, text, e, declared, written, -, unread⟩
  obtain ⟨data', declared', readable⟩ := denotes
  obtain ⟨text', written', read⟩ := Call.ofPayload_eq_ok_iff.mp readable
  obtain rfl := Option.some.inj (declared.symm.trans declared')
  obtain rfl := Except.ok.inj (written.symm.trans written')
  cases read.symm.trans unread

theorem moved_of_denotes (denotes : r.Denotes call) : r.moved = call.payments := by
  obtain ⟨data, declared, readable⟩ := denotes
  rw [moved, declared, Option.elim_some, Payload.payments, readable]

/-- A result that moves something is a call. -/
theorem exists_denotes_of_mem_moved {p : Payment} (member : p ∈ r.moved) :
    ∃ call, r.Denotes call ∧ p ∈ call.payments := by
  rw [moved] at member
  cases declared : r.data with
  | none =>
    rw [declared] at member
    cases member
  | some data =>
    rw [declared, Option.elim_some, Payload.payments] at member
    cases readable : Call.ofPayload data with
    | error e =>
      rw [readable] at member
      cases member
    | ok call =>
      rw [readable] at member
      exact ⟨call, ⟨data, declared, readable⟩, member⟩

/-- What is read of a result are the payments of its call; nothing, if it is none. -/
theorem payments_eq_ok {ps : List Payment} (read : r.payments (fun _ => true) = .ok ps) :
    ps = r.moved := by
  cases transfer : r.transferText? with
  | none =>
    rw [payments_of_transferText?_eq_none transfer] at read
    obtain rfl := Except.ok.inj read
    symm
    rw [List.eq_nil_iff_forall_not_mem]
    intro p member
    obtain ⟨call, denotes, paid⟩ := exists_denotes_of_mem_moved member
    have empty := (payments_of_denotes denotes).symm.trans
      (payments_of_transferText?_eq_none transfer)
    rw [Except.ok.inj empty] at paid
    cases paid
  | some text =>
    obtain ⟨data, declared, written, -⟩ := transferText?_eq_some_iff.mp transfer
    cases parsed : Call.ofText text with
    | error e =>
      rw [payments, transfer] at read
      simp only [parsed] at read
      cases read
    | ok call =>
      have denotes : r.Denotes call :=
        ⟨data, declared, Call.ofPayload_eq_ok_iff.mpr ⟨text, written, parsed⟩⟩
      rw [payments_of_denotes denotes] at read
      rw [moved_of_denotes denotes, Except.ok.inj read]

end ContractResult

/-! ### Lists of results -/

section Lists

variable (keep : Call → Bool) (decimals : Decimals)

theorem paymentsOf_cons (r : ContractResult) (rest : List ContractResult) :
    paymentsOf keep (r :: rest) = inOrder (r.payments keep) (paymentsOf keep rest) := rfl

/-- What is read of results are the payments of their calls, in order. -/
theorem paymentsOf_eq_ok {rs : List ContractResult} {ps : List Payment}
    (read : paymentsOf (fun _ => true) rs = .ok ps) : ps = rs.flatMap ContractResult.moved := by
  induction rs generalizing ps with
  | nil =>
    obtain rfl := Except.ok.inj read
    rfl
  | cons r rest ih =>
    rw [paymentsOf_cons, inOrder_eq_ok_iff] at read
    obtain ⟨front, back, first, others, rfl⟩ := read
    rw [List.flatMap_cons, ← ContractResult.payments_eq_ok first, ← ih others]

/-- The amounts that results move are those of these payments. -/
theorem transferAmounts_eq_ok {rs : List ContractResult} {amounts : List TokenAmount}
    (read : transferAmounts decimals rs = .ok amounts) :
    amounts = (rs.flatMap ContractResult.moved).map (Payment.value decimals) := by
  unfold transferAmounts at read
  cases paid : paymentsOf (fun _ => true) rs with
  | error e =>
    rw [paid] at read
    cases read
  | ok ps =>
    rw [paid] at read
    obtain rfl := Except.ok.inj read
    rw [paymentsOf_eq_ok paid]

/-- The payments of two lists of results are read one after the other. -/
theorem paymentsOf_append (as bs : List ContractResult) :
    paymentsOf keep (as ++ bs) = inOrder (paymentsOf keep as) (paymentsOf keep bs) := by
  induction as with
  | nil => exact (inOrder_ok_nil _).symm
  | cons r rest ih => rw [List.cons_append, paymentsOf_cons, ih, paymentsOf_cons, inOrder_assoc]

/-- So are their amounts. -/
theorem transferAmounts_append (as bs : List ContractResult) :
    transferAmounts decimals (as ++ bs) =
      inOrder (transferAmounts decimals as) (transferAmounts decimals bs) := by
  rw [transferAmounts, paymentsOf_append, map_inOrder]
  rfl

/-- The amounts of one result. -/
theorem transferAmounts_singleton (r : ContractResult) :
    transferAmounts decimals [r] =
      (r.payments fun _ => true).map fun ps => ps.map (Payment.value decimals) := by
  rw [transferAmounts, paymentsOf_cons]
  cases r.payments fun _ => true with
  | error e => rfl
  | ok ps => simp [paymentsOf]

/-- A result that moves nothing can be left out, wherever it stands. -/
theorem transferAmounts_of_movesNothing {r : ContractResult} (mute : r.MovesNothing)
    (as bs : List ContractResult) :
    transferAmounts decimals (as ++ r :: bs) = transferAmounts decimals (as ++ bs) := by
  have nothing : transferAmounts decimals [r] = .ok [] := by
    rw [transferAmounts_singleton, r.payments_of_transferText?_eq_none mute.transferText?_eq_none]
    rfl
  have step : transferAmounts decimals (r :: bs) = transferAmounts decimals bs := by
    rw [← List.singleton_append, transferAmounts_append, nothing, inOrder_ok_nil]
  rw [transferAmounts_append, step, ← transferAmounts_append]

/-- A result that is a call gives one amount for each of its payments, in their order. -/
theorem transferAmounts_of_denotes {r : ContractResult} {call : Call} (denotes : r.Denotes call) :
    transferAmounts decimals [r] = .ok (call.payments.map (Payment.value decimals)) := by
  rw [transferAmounts_singleton, r.payments_of_denotes denotes]
  rfl

/-- A result that begins like a transfer and is none gives the reason. -/
theorem transferAmounts_of_broken {r : ContractResult} {text : String} {e : DecodeError}
    (transfer : r.transferText? = some text) (unread : Call.ofText text = .error e) :
    transferAmounts decimals [r] = .error e := by
  have failed : (r.payments fun _ => true) = .error e := by
    rw [ContractResult.payments, transfer]
    simp only [unread]
  rw [transferAmounts_singleton, failed]
  rfl

end Lists

/-- What results move is what each of them moves, in order.  What two lists of results move
is what the first moves and then what the second does, and the first failure is the failure
of both.  A result without a transfer can be left out, wherever it stands; one that is a call
gives one amount for each payment, in order and of the token of the payment, which has the
units of the payment if the token is known; and one that begins like a transfer and is none
fails. -/
theorem transferAmounts_in_order (decimals : Decimals) :
    (∀ as bs : List ContractResult,
      (∀ xs ys, transferAmounts decimals as = .ok xs → transferAmounts decimals bs = .ok ys →
        transferAmounts decimals (as ++ bs) = .ok (xs ++ ys)) ∧
      (∀ e, transferAmounts decimals as = .error e →
        transferAmounts decimals (as ++ bs) = .error e) ∧
      ∀ xs e, transferAmounts decimals as = .ok xs → transferAmounts decimals bs = .error e →
        transferAmounts decimals (as ++ bs) = .error e) ∧
    (∀ r : ContractResult, r.MovesNothing → ∀ as bs,
      transferAmounts decimals (as ++ r :: bs) = transferAmounts decimals (as ++ bs)) ∧
    (∀ (r : ContractResult) (call : Call), r.Denotes call →
      ∃ values, List.Forall₂ (Payment.Gives decimals) call.payments values ∧
        ∀ as bs xs ys, transferAmounts decimals as = .ok xs →
          transferAmounts decimals bs = .ok ys →
          transferAmounts decimals (as ++ r :: bs) = .ok (xs ++ values ++ ys)) ∧
    ∀ (r : ContractResult) (data text : String) (e : DecodeError), r.data = some data →
      Payload.text data = .ok text → Call.isTransferText text = true →
      Call.ofText text = .error e → transferAmounts decimals [r] = .error e := by
  refine ⟨?_, ?_, ?_, ?_⟩
  · intro as bs
    refine ⟨?_, ?_, ?_⟩
    · intro xs ys first second
      rw [transferAmounts_append, first, second, inOrder_ok_ok]
    · intro e failed
      rw [transferAmounts_append, failed, inOrder_error]
    · intro xs e first failed
      rw [transferAmounts_append, first, failed, inOrder_ok_error]
  · intro r mute as bs
    exact transferAmounts_of_movesNothing decimals mute as bs
  · intro r call denotes
    refine ⟨call.payments.map (Payment.value decimals), ?_, ?_⟩
    · rw [List.forall₂_map_right_iff, List.forall₂_same]
      exact fun p _ => p.gives_value decimals
    · intro as bs xs ys first second
      have here := transferAmounts_of_denotes decimals denotes
      rw [List.append_cons, transferAmounts_append, transferAmounts_append, first, here, second,
        inOrder_ok_ok, inOrder_ok_ok]
  · intro r data text e declared written begins unread
    have transfer : r.transferText? = some text :=
      ContractResult.transferText?_eq_some_iff.mpr ⟨data, declared, written, begins⟩
    exact transferAmounts_of_broken decimals transfer unread

/-- A transfer of five units of a token between two results that are notes. -/
theorem transferAmounts_in_order_of_notes :
    let note : ContractResult := { data := some "bm90ZQ==" }
    let paid : ContractResult := { data := some "RVNEVFRyYW5zZmVyQDU1NTM0NDJkNjE2MjYzQDA1" }
    ∃ value, Payment.Gives (fun _ => some 6) (.plain "USD-abc" ⟨5, by decide⟩) value ∧
      transferAmounts (fun _ => some 6) [note, paid, note] = .ok [value] := by
  intro note paid
  obtain ⟨-, left_out, called, -⟩ := transferAmounts_in_order fun _ => some 6
  have written : Payload.text "bm90ZQ==" = .ok "note" := by decide +kernel
  have mute : note.MovesNothing := .unnamed rfl written (by decide)
  have denotes : paid.Denotes (.transfer "USD-abc" ⟨5, by decide⟩ none) :=
    ⟨_, rfl, by decide +kernel⟩
  obtain ⟨values, gives, placed⟩ := called paid _ denotes
  obtain ⟨value, rest, first, others, rfl⟩ := List.forall₂_cons_left_iff.mp gives
  obtain rfl := List.forall₂_nil_left_iff.mp others
  refine ⟨value, first, ?_⟩
  calc transferAmounts (fun _ => some 6) [note, paid, note]
    _ = transferAmounts (fun _ => some 6) [paid, note] := left_out note mute [] [paid, note]
    _ = transferAmounts (fun _ => some 6) [paid] := left_out note mute [paid] []
    _ = .ok [value] := placed [] [] [] [] rfl rfl

end ChainActivity
