import ChainActivity.Call.Parser
import ChainActivity.Call.Writer
import ChainActivity.Proofs.Text.Base64
import ChainActivity.Proofs.Text.Digits

/-!
# Reading calls that were written

The canonical text of a call reads back as the call, and so does its canonical payload,
whatever white space stands around it.

## Main definitions

* `Call.IsSeparable` — whether the canonical text of a call can be cut into its terms.
* `Call.IsWritable` — whether the canonical text of a call is a text of that call.
* `Call.reread` — the call that the canonical text of a call denotes.

## Main statements

* `Term.text_ofText`, `Term.word_ofNat`, `Term.amount_ofNat`, `Term.address_ofAddress` —
  every kind of term reads back as what it was written from.
* `Call.terms_join` — cutting joined terms gives the terms back.
* `Call.isWhole_of_mem_terms` — what a text is cut into can be joined again.
* `Call.mapM_paymentAt` — payments in a row are read one after the other.
* `Call.ofTerms_toTerms`, `Call.ofText_toText` — what the terms and the text of a call denote.
* `Call.ofPayload_toPayload` — the payload of a call that can be written denotes the call.
* `Call.ofText_and_ofPayload_of_isWritable` — the text of a call that can be written, and its
  payload, denote the call.

## Design notes

A position in the terms of a call is always the length of what stands in front of it.
The lemmas on payments and on what is called are therefore stated for terms
`before ++ …` at the position `before.length`, and the induction on the payments moves
one payment at a time to the front.

An empty term calls nothing, so a transfer that calls a function without a name loses it.
Every lemma on reading says so by `reread`, and no call has to be left out; only the last
step asks that a call can be written.
-/

namespace ChainActivity

/-! ### Terms -/

namespace Hex

/-- Digits never begin with the mark. -/
theorem withoutMark_of_forall_isDigit {text : String}
    (digits : ∀ c ∈ text.toList, isDigit c = true) : withoutMark text = text := by
  rw [withoutMark]
  split
  · next rest marked =>
    have mark : isDigit 'x' = true := digits 'x' (by simp [marked])
    exact absurd mark (by decide)
  · rfl

end Hex

namespace Term

/-- The digits of bytes mean the bytes. -/
theorem bytes_encode (bs : List UInt8) : bytes (String.ofList (Hex.encode bs)) = .ok bs := by
  have unmarked : Hex.withoutMark (String.ofList (Hex.encode bs)) = String.ofList (Hex.encode bs) :=
    Hex.withoutMark_of_forall_isDigit fun c member =>
      Hex.isDigit_of_mem_encode (by rwa [String.toList_ofList] at member)
  rw [bytes, unmarked, String.toList_ofList, Hex.decode_encode]

/-- The term of a text means the text. -/
@[simp] theorem text_ofText (s : String) : text (ofText s) = .ok s := by
  rw [text, ofText, bytes_encode]
  simp only [bind, Except.bind, Utf8.decode?_encode]

/-- The term of a number of sixty-four bits means the number. -/
theorem word_ofNat {n : Nat} (small : n < UInt64.size) : word (ofNat n) = .ok (UInt64.ofNat n) := by
  have present : ofNat n ≠ "" := by
    intro none
    have digits : (ofNat n).toList = [] := by rw [none]; rfl
    rw [ofNat, String.toList_ofList] at digits
    exact Hex.ofNat_ne_nil n digits
  rw [word, if_neg present, ofNat, String.toList_ofList, Numeral.value_ofNat small]

/-- The term of a word means the word. -/
@[simp] theorem word_toNat (w : UInt64) : word (ofNat w.toNat) = .ok w := by
  rw [word_ofNat w.toNat_lt_size, UInt64.ofNat_toNat]

/-- The term of an amount means the amount. -/
@[simp] theorem amount_ofNat (a : Amount) : amount (ofNat a.toNat) = .ok a := by
  rw [amount, ofNat, Amount.ofText_ofNat]

/-- The term of an address means the address. -/
@[simp] theorem address_ofAddress (a : Address) : address (ofAddress a) = .ok a := by
  rw [address, ofAddress, bytes_encode]
  simp only [bind, Except.bind, Address.ofKey?_key]

/-- A text that is not empty has a term that is not empty. -/
theorem ofText_ne_empty {s : String} (present : s ≠ "") : ofText s ≠ "" := by
  intro none
  have read : text (ofText s) = .ok "" := by rw [none]; rfl
  rw [text_ofText] at read
  exact present (Except.ok.inj read)

end Term

/-! ### Joining and cutting -/

/-- Whether a text can be told from its neighbours in a call. -/
def Term.IsWhole (term : String) : Prop := '@' ∉ term.toList

namespace Term

/-- Digits can be told from their neighbours. -/
theorem isWhole_ofList {cs : List Char} (digits : ∀ c ∈ cs, Hex.isDigit c = true) :
    IsWhole (String.ofList cs) := by
  intro member
  rw [String.toList_ofList] at member
  exact absurd (digits '@' member) (by decide)

theorem isWhole_ofText (s : String) : IsWhole (ofText s) :=
  isWhole_ofList fun _ => Hex.isDigit_of_mem_encode

theorem isWhole_ofNat (n : Nat) : IsWhole (ofNat n) :=
  isWhole_ofList fun _ => Hex.isDigit_of_mem_ofNat

theorem isWhole_ofAddress (a : Address) : IsWhole (ofAddress a) :=
  isWhole_ofList fun _ => Hex.isDigit_of_mem_encode

end Term

/-- The pieces of a cut list do not hold what it is cut at. -/
theorem not_mem_of_mem_splitOn {α : Type} [BEq α] [LawfulBEq α] {x : α} {xs piece : List α}
    (member : piece ∈ xs.splitOn x) : x ∉ piece := by
  induction xs generalizing piece with
  | nil =>
    rw [List.splitOn_nil, List.mem_singleton] at member
    rw [member]
    exact List.not_mem_nil
  | cons y ys ih =>
    rw [List.splitOn_cons_eq_if_modifyHead] at member
    split at member
    · rcases List.mem_cons.mp member with rfl | later
      · exact List.not_mem_nil
      · exact ih later
    · next differs =>
      -- what is in front joins the first piece of the rest
      rcases cut : ys.splitOn x with _ | ⟨first, rest⟩
      · exact absurd cut (List.splitOn_ne_nil x ys)
      · rw [cut] at member ih
        rcases List.mem_cons.mp member with rfl | later
        · rw [List.mem_cons, not_or]
          exact ⟨fun same => differs (beq_iff_eq.mpr same.symm), ih List.mem_cons_self⟩
        · exact ih (List.mem_cons_of_mem first later)

namespace Call

/-- The terms of a text can be told from their neighbours. -/
theorem isWhole_of_mem_terms {text term : String} (member : term ∈ terms text) :
    Term.IsWhole term := by
  obtain ⟨piece, cut, rfl⟩ := List.mem_map.mp member
  rw [Term.IsWhole, String.toList_ofList]
  exact not_mem_of_mem_splitOn cut

/-- Cutting joined terms gives the terms back. -/
theorem terms_join {ts : List String} (whole : ∀ t ∈ ts, Term.IsWhole t) (present : ts ≠ []) :
    terms (join ts) = ts := by
  have pieces : ∀ cs ∈ ts.map String.toList, '@' ∉ cs := by
    intro cs member
    obtain ⟨t, found, rfl⟩ := List.mem_map.mp member
    exact whole t found
  have some : ts.map String.toList ≠ [] := by simpa using present
  rw [terms, join, String.toList_ofList, List.splitOn_intercalate '@' pieces some, List.map_map]
  simp [Function.comp_def]

end Call

/-! ### Calls that can be written -/

/-- Whether the arguments of what a transfer calls can be told from each other. -/
def Invocation.IsSeparable (called : Option Invocation) : Prop :=
  ∀ invocation ∈ called, ∀ arg ∈ invocation.args, Term.IsWhole arg

/-- Whether a function that a transfer calls can be told from no function at all, and
its arguments from each other. -/
def Invocation.IsWritable (called : Option Invocation) : Prop :=
  ∀ invocation ∈ called, invocation.function ≠ "" ∧ ∀ arg ∈ invocation.args, Term.IsWhole arg

/-- What a transfer calls, unless the function has no name. -/
def Invocation.reread (called : Option Invocation) : Option Invocation :=
  called.filter fun invocation => invocation.function ≠ ""

theorem Invocation.reread_of_named {invocation : Invocation} (named : invocation.function ≠ "") :
    reread (some invocation) = some invocation :=
  if_pos (decide_eq_true named)

theorem Invocation.reread_of_nameless {invocation : Invocation}
    (nameless : invocation.function = "") : reread (some invocation) = none :=
  if_neg (by simp [nameless])

namespace Call

/-- Whether the terms of a call can be told apart, and its payments be counted.  A text
can count no more payments than a number of sixty-four bits does. -/
def IsSeparable : Call → Prop
  | transfer _ _ called | itemTransfer _ _ called => Invocation.IsSeparable called
  | multiTransfer _ payments called =>
    payments.length < UInt64.size ∧ Invocation.IsSeparable called
  | generic invocation =>
    invocation.function ∉ transferNames ∧
      ∀ term ∈ invocation.function :: invocation.args, Term.IsWhole term

/-- Whether the canonical text of a call is a text of that call.  A text can count no
more payments than a number of sixty-four bits does. -/
def IsWritable : Call → Prop
  | transfer _ _ called | itemTransfer _ _ called => Invocation.IsWritable called
  | multiTransfer _ payments called =>
    payments.length < UInt64.size ∧ Invocation.IsWritable called
  | generic invocation =>
    invocation.function ∉ transferNames ∧
      ∀ term ∈ invocation.function :: invocation.args, Term.IsWhole term

/-- The call without a function that has no name. -/
def reread : Call → Call
  | transfer token amount called => transfer token amount (Invocation.reread called)
  | itemTransfer payment destination called =>
    itemTransfer payment destination (Invocation.reread called)
  | multiTransfer destination payments called =>
    multiTransfer destination payments (Invocation.reread called)
  | generic invocation => generic invocation

end Call

theorem Invocation.IsWritable.isSeparable {called : Option Invocation}
    (writable : IsWritable called) : IsSeparable called :=
  fun invocation member => (writable invocation member).2

/-- What can be written keeps its function. -/
theorem Invocation.IsWritable.reread_eq {called : Option Invocation}
    (writable : IsWritable called) : reread called = called := by
  cases called with
  | none => rfl
  | some invocation => exact reread_of_named (writable invocation rfl).1

namespace Call

theorem IsWritable.isSeparable {call : Call} (writable : call.IsWritable) :
    call.IsSeparable := by
  cases call with
  | transfer | itemTransfer => exact Invocation.IsWritable.isSeparable writable
  | multiTransfer => exact ⟨writable.1, writable.2.isSeparable⟩
  | generic => exact writable

theorem IsWritable.reread_eq {call : Call} (writable : call.IsWritable) :
    call.reread = call := by
  cases call with
  | transfer token amount called => rw [reread, Invocation.IsWritable.reread_eq writable]
  | itemTransfer payment destination called =>
    rw [reread, Invocation.IsWritable.reread_eq writable]
  | multiTransfer destination payments called => rw [reread, writable.2.reread_eq]
  | generic invocation => rfl

/-- The terms of what a transfer calls can be told apart. -/
theorem isWhole_of_mem_invocation {called : Option Invocation}
    (separable : Invocation.IsSeparable called) {term : String}
    (member : term ∈ Invocation.toTerms called) : Term.IsWhole term := by
  cases called with
  | none => cases member
  | some invocation =>
    rw [Invocation.toTerms, List.mem_cons] at member
    rcases member with rfl | arg
    · exact Term.isWhole_ofText _
    · exact separable invocation rfl term arg

/-- The terms of a payment can be told apart. -/
theorem isWhole_of_mem_payment {p : Payment} {term : String} (member : term ∈ p.toTerms) :
    Term.IsWhole term := by
  simp only [Payment.toTerms, List.mem_cons, List.not_mem_nil, or_false] at member
  rcases member with rfl | rfl | rfl
  · exact Term.isWhole_ofText _
  · exact Term.isWhole_ofNat _
  · exact Term.isWhole_ofNat _

/-- The name of a transfer holds no separator. -/
theorem isWhole_of_mem_transferNames {name : String} (member : name ∈ transferNames) :
    Term.IsWhole name := by
  simp only [transferNames, List.mem_cons, List.not_mem_nil, or_false] at member
  rcases member with rfl | rfl | rfl <;> simp [Term.IsWhole, transferName, itemTransferName,
    multiTransferName]

/-- The terms of a call can be told apart. -/
theorem isWhole_of_mem_toTerms {call : Call} (separable : call.IsSeparable) {term : String}
    (member : term ∈ call.toTerms) : Term.IsWhole term := by
  cases call with
  | transfer token amount called =>
    rw [toTerms, List.mem_cons, List.mem_cons, List.mem_cons] at member
    rcases member with rfl | rfl | rfl | later
    · exact isWhole_of_mem_transferNames (by simp [transferNames])
    · exact Term.isWhole_ofText _
    · exact Term.isWhole_ofNat _
    · exact isWhole_of_mem_invocation separable later
  | itemTransfer payment destination called =>
    rw [toTerms, List.mem_cons, List.mem_append, List.mem_cons] at member
    rcases member with rfl | paid | rfl | later
    · exact isWhole_of_mem_transferNames (by simp [transferNames])
    · exact isWhole_of_mem_payment paid
    · exact Term.isWhole_ofAddress _
    · exact isWhole_of_mem_invocation separable later
  | multiTransfer destination payments called =>
    rw [toTerms, List.mem_cons, List.mem_cons, List.mem_cons, List.mem_append,
      List.mem_flatMap] at member
    rcases member with rfl | rfl | rfl | ⟨p, -, paid⟩ | later
    · exact isWhole_of_mem_transferNames (by simp [transferNames])
    · exact Term.isWhole_ofAddress _
    · exact Term.isWhole_ofNat _
    · exact isWhole_of_mem_payment paid
    · exact isWhole_of_mem_invocation separable.2 later
  | generic invocation => exact separable.2 term member

theorem toTerms_ne_nil (call : Call) : call.toTerms ≠ [] := by
  cases call <;> exact List.cons_ne_nil _ _

/-! ### Reading terms at a position -/

/-- The term behind some others. -/
theorem field_append (name : String) (before : List String) (term : String)
    (after : List String) : field name (before ++ term :: after) before.length = .ok term := by
  rw [field, List.getElem?_append_right (Nat.le_refl _), Nat.sub_self, List.getElem?_cons_zero]

/-- A payment behind some other terms. -/
theorem paymentAt_append (name : String) (before : List String) (p : Payment)
    (after : List String) :
    paymentAt name (before ++ p.toTerms ++ after) before.length = .ok p := by
  have collection := field_append name before (Term.ofText p.collection)
    (Term.ofNat p.nonce.toNat :: Term.ofNat p.amount.toNat :: after)
  have nonce := field_append name (before ++ [Term.ofText p.collection])
    (Term.ofNat p.nonce.toNat) (Term.ofNat p.amount.toNat :: after)
  have amount := field_append name
    (before ++ [Term.ofText p.collection, Term.ofNat p.nonce.toNat])
    (Term.ofNat p.amount.toNat) after
  simp only [List.append_assoc, List.cons_append, List.nil_append, List.length_append,
    List.length_cons, List.length_nil, Nat.zero_add, Nat.reduceAdd] at nonce amount
  rw [paymentAt, Payment.toTerms, List.append_assoc]
  simp only [List.cons_append, List.nil_append, collection, nonce, amount, bind, Except.bind,
    Term.text_ofText, Term.word_toNat, Term.amount_ofNat]

/-- Payments in a row are read one after the other. -/
theorem mapM_paymentAt (name : String) (before : List String) (payments : List Payment)
    (after : List String) :
    ((List.range payments.length).mapM fun i =>
        paymentAt name (before ++ payments.flatMap Payment.toTerms ++ after)
          (before.length + 3 * i)) = .ok payments := by
  induction payments generalizing before with
  | nil => rfl
  | cons p rest ih =>
    -- the first payment joins the terms in front of the others
    have later := ih (before ++ p.toTerms)
    have first := paymentAt_append name before p (rest.flatMap Payment.toTerms ++ after)
    simp only [List.length_append, length_toTerms_payment, List.append_assoc, Nat.add_assoc]
      at later first
    rw [List.length_cons, List.range_succ_eq_map, List.mapM_cons]
    simp only [List.flatMap_cons, List.append_assoc, Nat.mul_zero, Nat.add_zero, first,
      List.mapM_map, Function.comp_def, Nat.succ_eq_add_one, Nat.mul_add, Nat.mul_one,
      Nat.add_comm (3 * _) 3, later, bind, Except.bind]
    rfl

/-- What a transfer calls, behind its other terms. -/
theorem invocationAt_append (before : List String) (called : Option Invocation) :
    invocationAt (before ++ Invocation.toTerms called) before.length =
      .ok (Invocation.reread called) := by
  cases called with
  | none =>
    rw [invocationAt, Invocation.toTerms, List.append_nil, List.getElem?_eq_none (Nat.le_refl _)]
    rfl
  | some invocation =>
    have args : (before ++ Invocation.toTerms (some invocation)).drop (before.length + 1) =
        invocation.args := by
      rw [Invocation.toTerms, List.drop_append]
      simp
    rw [invocationAt, args, Invocation.toTerms, List.getElem?_append_right (Nat.le_refl _),
      Nat.sub_self, List.getElem?_cons_zero]
    by_cases nameless : invocation.function = ""
    · have empty : Term.ofText invocation.function = "" := by rw [nameless]; rfl
      rw [Invocation.reread_of_nameless nameless]
      exact if_pos empty
    · rw [Invocation.reread_of_named nameless]
      simp only [if_neg (Term.ofText_ne_empty nameless), Term.text_ofText, bind, Except.bind]

/-! ### Reading calls -/

theorem readTransfer_toTerms (token : String) (amount : Amount) (called : Option Invocation) :
    readTransfer (toTerms (.transfer token amount called)) =
      .ok (reread (.transfer token amount called)) := by
  have behind := invocationAt_append
    [transferName, Term.ofText token, Term.ofNat amount.toNat] called
  simp only [List.cons_append, List.nil_append, List.length_cons, List.length_nil, Nat.zero_add,
    Nat.reduceAdd] at behind
  simp only [readTransfer, toTerms, field, List.getElem?_cons_succ, List.getElem?_cons_zero, bind,
    Except.bind, Term.text_ofText, Term.amount_ofNat, behind, reread]

theorem readItemTransfer_toTerms (payment : Payment) (destination : Address)
    (called : Option Invocation) :
    readItemTransfer (toTerms (.itemTransfer payment destination called)) =
      .ok (reread (.itemTransfer payment destination called)) := by
  have paid := paymentAt_append itemTransferName [itemTransferName] payment
    (Term.ofAddress destination :: Invocation.toTerms called)
  have addressed := field_append itemTransferName (itemTransferName :: payment.toTerms)
    (Term.ofAddress destination) (Invocation.toTerms called)
  have behind := invocationAt_append
    (itemTransferName :: payment.toTerms ++ [Term.ofAddress destination]) called
  simp only [List.cons_append, List.nil_append, List.append_assoc, List.length_cons,
    List.length_append, List.length_nil, length_toTerms_payment, Nat.zero_add, Nat.reduceAdd]
    at paid addressed behind
  simp only [readItemTransfer, toTerms, paid, addressed, behind, bind, Except.bind,
    Term.address_ofAddress, reread]

theorem readMultiTransfer_toTerms (destination : Address) (payments : List Payment)
    (called : Option Invocation) (countable : payments.length < UInt64.size) :
    readMultiTransfer (toTerms (.multiTransfer destination payments called)) =
      .ok (reread (.multiTransfer destination payments called)) := by
  let fixed := [multiTransferName, Term.ofAddress destination, Term.ofNat payments.length]
  let terms := fixed ++ payments.flatMap Payment.toTerms ++ Invocation.toTerms called
  have count : (UInt64.ofNat payments.length).toNat = payments.length :=
    UInt64.toNat_ofNat_of_lt' countable
  have paid : ((List.range payments.length).mapM fun i =>
      paymentAt multiTransferName terms (3 + 3 * i)) = .ok payments :=
    mapM_paymentAt multiTransferName fixed payments (Invocation.toTerms called)
  have position : (fixed ++ payments.flatMap Payment.toTerms).length =
      3 + 3 * payments.length := by
    rw [List.length_append, length_flatMap_toTerms]
    rfl
  have behind : invocationAt terms (3 + 3 * payments.length) =
      .ok (Invocation.reread called) := by
    rw [← position]
    exact invocationAt_append (fixed ++ payments.flatMap Payment.toTerms) called
  have enough : ¬ terms.length < 3 + 3 * payments.length := by
    rw [List.length_append, position]
    omega
  change readMultiTransfer terms = _
  rw [readMultiTransfer, show field multiTransferName terms 1 = .ok (Term.ofAddress destination)
    from rfl, show field multiTransferName terms 2 = .ok (Term.ofNat payments.length) from rfl]
  simp only [bind, Except.bind, Term.address_ofAddress, Term.word_ofNat countable, count,
    if_neg enough, paid, behind, reread]

/-- The terms of a call denote the call, but for a function without a name. -/
theorem ofTerms_toTerms {call : Call} (separable : call.IsSeparable) :
    ofTerms call.toTerms = .ok call.reread := by
  cases call with
  | transfer token amount called =>
    rw [ofTerms, if_pos (by rfl)]
    exact readTransfer_toTerms token amount called
  | itemTransfer payment destination called =>
    rw [ofTerms, if_neg (by simp [toTerms, transferName, itemTransferName]), if_pos (by rfl)]
    exact readItemTransfer_toTerms payment destination called
  | multiTransfer destination payments called =>
    rw [ofTerms, if_neg (by simp [toTerms, transferName, multiTransferName]),
      if_neg (by simp [toTerms, itemTransferName, multiTransferName]), if_pos (by rfl)]
    exact readMultiTransfer_toTerms destination payments called separable.1
  | generic invocation =>
    have other := separable.1
    simp only [transferNames, List.mem_cons, List.not_mem_nil, or_false, not_or] at other
    obtain ⟨plain, item, several⟩ := other
    rw [ofTerms, toTerms, List.headD_cons, if_neg plain, if_neg item, if_neg several]
    rfl

/-- The canonical text of a call is a text of the call, but for a function without a
name. -/
theorem ofText_toText {call : Call} (separable : call.IsSeparable) :
    ofText call.toText = .ok call.reread := by
  rw [ofText, toText, terms_join (fun _ => isWhole_of_mem_toTerms separable) (toTerms_ne_nil call)]
  exact ofTerms_toTerms separable

end Call

/-! ### Payloads -/

/-- The written form of a text is a payload of the text, with white space or without. -/
theorem Payload.text_encode (s : String) {before after : List Char}
    (blankBefore : ∀ c ∈ before, isBlank c = true) (blankAfter : ∀ c ∈ after, isBlank c = true) :
    Payload.text
        (String.ofList (before ++ Base64.encode (Utf8.encode s.toList) ++ after)) = .ok s := by
  have dark : ∀ c ∈ Base64.encode (Utf8.encode s.toList), isBlank c = false :=
    fun _ => Base64.not_isBlank_of_mem_encode
  rw [Payload.text, String.toList_ofList, trim_append_append blankBefore dark blankAfter,
    Base64.decode_encode]
  simp only [Utf8.decode?_encode]

namespace Call

/-- The canonical payload of a call is a payload of the call. -/
theorem ofPayload_toPayload {call : Call} (writable : call.IsWritable) :
    ofPayload call.toPayload = .ok call := by
  have text : Payload.text call.toPayload = .ok call.toText := by
    have none : ∀ c ∈ ([] : List Char), isBlank c = true := nofun
    have plain := Payload.text_encode call.toText none none
    rwa [List.nil_append, List.append_nil] at plain
  rw [ofPayload, text]
  simp only [bind, Except.bind]
  rw [ofText_toText writable.isSeparable, writable.reread_eq]

/-- **Reading undoes writing.**  The canonical text of a call denotes exactly that call:
its payments stand in order with their collections, nonces and amounts, each of them
moves the token that collection and nonce identify, and what is called has its function
and its arguments.  The canonical payload denotes the call too, whatever white space
stands around it. -/
theorem ofText_and_ofPayload_of_isWritable (call : Call) (writable : call.IsWritable)
    (before after : List Char) (blankBefore : ∀ c ∈ before, isBlank c = true)
    (blankAfter : ∀ c ∈ after, isBlank c = true) :
    ofText call.toText = .ok call ∧
      (∀ p ∈ call.payments, p.token = Token.identifier p.collection p.nonce) ∧
      ofPayload (String.ofList (before ++ call.toPayload.toList ++ after)) = .ok call := by
  have text : ofText call.toText = .ok call := by
    rw [ofText_toText writable.isSeparable, writable.reread_eq]
  refine ⟨text, fun p _ => rfl, ?_⟩
  rw [ofPayload, toPayload, String.toList_ofList, Payload.text_encode _ blankBefore blankAfter]
  simp only [bind, Except.bind]
  exact text

/-- A transfer of the largest amount of an item and of nothing of a token without a
name, which then calls a function with an empty argument. -/
def ofTwoPayments : Call :=
  .multiTransfer ⟨List.replicate 32 171, rfl⟩
    [⟨"LPFARM-a1b2c3", 300, ⟨Amount.bound - 1, by decide⟩⟩, .plain "" .zero]
    (some ⟨"enterFarm", ["", "0x2a"]⟩)

theorem isWritable_ofTwoPayments : ofTwoPayments.IsWritable := by
  refine ⟨by decide, ?_⟩
  rintro invocation ⟨⟩
  refine ⟨by decide, ?_⟩
  intro arg member
  simp only [List.mem_cons, List.not_mem_nil, or_false] at member
  rcases member with rfl | rfl <;> simp [Term.IsWhole]

theorem ofText_and_ofPayload_ofTwoPayments :
    ofTwoPayments.IsWritable ∧ (∀ c ∈ ['\n', ' '], isBlank c = true) ∧
      ofText ofTwoPayments.toText = .ok ofTwoPayments ∧
      ofPayload (String.ofList (['\n', ' '] ++ ofTwoPayments.toPayload.toList ++ [])) =
        .ok ofTwoPayments := by
  have blank : ∀ c ∈ ['\n', ' '], isBlank c = true := List.all_eq_true.mp rfl
  have none : ∀ c ∈ ([] : List Char), isBlank c = true := List.all_eq_true.mp rfl
  obtain ⟨text, -, payload⟩ := ofText_and_ofPayload_of_isWritable ofTwoPayments
    isWritable_ofTwoPayments ['\n', ' '] [] blank none
  exact ⟨isWritable_ofTwoPayments, blank, text, payload⟩

end Call

end ChainActivity
