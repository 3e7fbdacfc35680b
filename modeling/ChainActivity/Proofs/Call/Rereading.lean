import ChainActivity.Proofs.Call.Layout
import ChainActivity.Proofs.Call.RoundTrip

/-!
# Writing calls that were read

Many texts denote one call: digits may be of either case and behind a mark, numbers may have
leading zeros or be left out, and terms that nothing reads may follow.  The canonical text of
a call that was read denotes the call again, with one exception.  The mark `0x` without digits
means the empty text, so that a function can be present and have no name; its canonical term
is empty, and an empty term calls nothing.

## Main definitions

* `Call.functionPosition` — where the function that a transfer calls stands.
* `Call.IsNameless` — a transfer that calls a function without a name.

## Main statements

* `Term.text_eq_ok_empty_iff` — the terms that mean the empty text.
* `Call.isSeparable_of_ofText` — a call that was read has a canonical text.
* `Call.ofText_toText_of_ofText` — what that text denotes.
* `Call.ofText_toText_unmarked` — it need not denote the call.
-/

namespace ChainActivity

/-! ### The empty text -/

/-- Only no digits are no bytes. -/
theorem Hex.eq_nil_of_decode {cs : List Char} (read : decode cs = .ok []) : cs = [] := by
  rw [decode] at read
  split at read
  · cases read
  · cases cs with
    | nil => rfl
    | cons c rest =>
      cases rest with
      | nil =>
        obtain ⟨n, -, odd⟩ := bind_eq_ok_iff.mp read
        cases odd
      | cons d rest =>
        obtain ⟨high, -, read⟩ := bind_eq_ok_iff.mp read
        obtain ⟨low, -, read⟩ := bind_eq_ok_iff.mp read
        obtain ⟨bytes, -, some⟩ := bind_eq_ok_iff.mp read
        cases some

theorem Hex.eq_of_withoutMark_eq_empty {text : String} (digits : (withoutMark text).toList = []) :
    text = "" ∨ text = "0x" := by
  rw [withoutMark] at digits
  split at digits
  · next rest marked =>
    rw [String.toList_ofList] at digits
    subst digits
    exact .inr (String.toList_inj.mp marked)
  · exact .inl (String.toList_inj.mp digits)

/-- A term means a text if it means the bytes of the text. -/
theorem Term.text_eq_ok_iff {term s : String} :
    text term = .ok s ↔ bytes term = .ok (Utf8.encode s.toList) := by
  constructor
  · intro read
    obtain ⟨bs, digits, means⟩ := bind_eq_ok_iff.mp read
    split at means
    · next t denotes =>
      obtain rfl := Except.ok.inj means
      rw [digits, Utf8.encode_of_decode? denotes]
    · cases means
  · intro digits
    rw [text, digits]
    simp only [bind, Except.bind, Utf8.decode?_encode]

/-- A term means the empty text if it is empty, or is the mark without digits. -/
theorem Term.text_eq_ok_empty_iff {term : String} :
    text term = .ok "" ↔ term = "" ∨ term = "0x" := by
  constructor
  · intro read
    have digits : bytes term = .ok [] := text_eq_ok_iff.mp read
    rw [bytes] at digits
    split at digits
    · next none =>
      obtain rfl := Except.ok.inj digits
      exact Hex.eq_of_withoutMark_eq_empty (Hex.eq_nil_of_decode none)
    · cases digits
  · rintro (rfl | rfl) <;> rfl

/-! ### Calls that were read -/

section Separable

variable {terms : List String} (whole : ∀ term ∈ terms, Term.IsWhole term)
include whole

theorem Invocation.IsReadAt.isSeparable {index : Nat} {called : Option Invocation}
    (calls : IsReadAt terms index called) : IsSeparable called := by
  rintro invocation ⟨⟩ arg member
  cases calls with
  | called cut position present means =>
    exact whole arg (cut ▸ List.mem_append_right _ (List.mem_cons_of_mem _ member))

/-- A call that terms denote can be written. -/
theorem Call.IsReadFrom.isSeparable {call : Call} (laid : IsReadFrom terms call) :
    call.IsSeparable := by
  cases laid with
  | transfer named means counts calls => exact calls.isSeparable whole
  | itemTransfer named paid addressed calls => exact calls.isSeparable whole
  | multiTransfer named addressed counted all paid calls =>
    exact ⟨all ▸ UInt64.toNat_lt_size _, calls.isSeparable whole⟩
  | generic other =>
    refine ⟨other, fun term member => ?_⟩
    cases terms with
    | nil =>
      obtain rfl := List.mem_singleton.mp member
      exact List.not_mem_nil
    | cons name args => exact whole term member

end Separable

namespace Call

theorem isReadFrom_of_ofText {text : String} {call : Call} (read : ofText text = .ok call) :
    IsReadFrom (terms text) call :=
  ofTerms_eq_ok_iff.mp read

/-- A call that was read has a canonical text that can be cut into its terms. -/
theorem isSeparable_of_ofText {text : String} {call : Call} (read : ofText text = .ok call) :
    call.IsSeparable :=
  (isReadFrom_of_ofText read).isSeparable fun _ => isWhole_of_mem_terms

/-! ### Functions without a name -/

/-- The position of the function that a transfer calls. -/
def functionPosition : Call → Nat
  | transfer .. => 3
  | itemTransfer .. => 5
  | multiTransfer _ payments _ => 3 + 3 * payments.length
  | generic _ => 0

/-- Whether a call moves tokens and then calls a function without a name. -/
def IsNameless (call : Call) : Prop :=
  call.isTransfer = true ∧ call.function? = some ""

/-- What is called is without a name if it is the mark without digits. -/
theorem function_eq_empty_iff {terms : List String} {index : Nat} {called : Option Invocation}
    (calls : Invocation.IsReadAt terms index called) :
    called.map Invocation.function = some "" ↔ terms[index]? = some "0x" := by
  cases calls with
  | absent behind => simp [List.getElem?_eq_none_iff.mpr behind]
  | empty here => simp [here]
  | called cut position present means =>
    subst cut position
    have here : ∀ {before after : List String} {term : String},
        (before ++ term :: after)[before.length]? = some term := by simp
    rw [here, Option.map_some, Option.some_inj, Option.some_inj]
    constructor
    · rintro rfl
      exact (Term.text_eq_ok_empty_iff.mp means).resolve_left present
    · rintro rfl
      exact Except.ok.inj (means.symm.trans (Term.text_eq_ok_empty_iff.mpr (.inr rfl)))

/-- A transfer that was read calls a function without a name exactly if the mark without
digits stands where the function does. -/
theorem IsReadFrom.isNameless_iff {terms : List String} {call : Call}
    (laid : IsReadFrom terms call) :
    call.IsNameless ↔ call.isTransfer = true ∧ terms[call.functionPosition]? = some "0x" := by
  refine and_congr_right fun moves => ?_
  cases laid with
  | transfer named means counts calls => exact function_eq_empty_iff calls
  | itemTransfer named paid addressed calls => exact function_eq_empty_iff calls
  | multiTransfer named addressed counted all paid calls => exact function_eq_empty_iff calls
  | generic other => cases moves

end Call

/-- What is called is read again as it is, unless it has no name. -/
theorem Invocation.reread_of_function_ne {called : Option Invocation}
    (named : called.map function ≠ some "") : reread called = called := by
  cases called with
  | none => rfl
  | some invocation => exact reread_of_named fun same => named (congrArg some same)

theorem Invocation.reread_of_function_eq {called : Option Invocation}
    (nameless : called.map function = some "") : reread called = none := by
  cases called with
  | none => rfl
  | some invocation => exact reread_of_nameless (Option.some.inj nameless)

namespace Call

/-- A call is read again as it is, unless it calls a function without a name. -/
theorem reread_of_not_isNameless {call : Call} (named : ¬ call.IsNameless) :
    call.reread = call := by
  cases call with
  | transfer token amount called =>
    exact congrArg (transfer token amount)
      (Invocation.reread_of_function_ne fun same => named ⟨rfl, same⟩)
  | itemTransfer payment destination called =>
    exact congrArg (itemTransfer payment destination)
      (Invocation.reread_of_function_ne fun same => named ⟨rfl, same⟩)
  | multiTransfer destination payments called =>
    exact congrArg (multiTransfer destination payments)
      (Invocation.reread_of_function_ne fun same => named ⟨rfl, same⟩)
  | generic invocation => rfl

/-- A call without the function it called. -/
structure IsWithoutFunction (kept call : Call) : Prop where
  name : kept.name = call.name
  payments : kept.payments = call.payments
  destination : kept.destination? = call.destination?
  invocation : kept.invocation? = none

/-- A function without a name is lost, and its arguments with it. -/
theorem reread_of_isNameless {call : Call} (nameless : call.IsNameless) :
    IsWithoutFunction call.reread call := by
  cases call with
  | transfer token amount called =>
    exact ⟨rfl, rfl, rfl, Invocation.reread_of_function_eq nameless.2⟩
  | itemTransfer payment destination called =>
    exact ⟨rfl, rfl, rfl, Invocation.reread_of_function_eq nameless.2⟩
  | multiTransfer destination payments called =>
    exact ⟨rfl, rfl, rfl, Invocation.reread_of_function_eq nameless.2⟩
  | generic invocation => cases nameless.1

/-- **Writing a call that was read gives a text of the same call**, unless it is a transfer
whose function is the mark `0x` without digits.  The canonical text of such a call denotes
the same transfer without a function and without its arguments. -/
theorem ofText_toText_of_ofText {text : String} {call : Call} (read : ofText text = .ok call) :
    (¬ call.IsNameless → ofText call.toText = .ok call) ∧
      (call.IsNameless → ∃ kept, ofText call.toText = .ok kept ∧ IsWithoutFunction kept call) ∧
      (call.IsNameless ↔
        call.isTransfer = true ∧ (terms text)[call.functionPosition]? = some "0x") := by
  have again : ofText call.toText = .ok call.reread := ofText_toText (isSeparable_of_ofText read)
  refine ⟨fun named => ?_, fun nameless => ?_, ?_⟩
  · rw [again, reread_of_not_isNameless named]
  · exact ⟨call.reread, again, reread_of_isNameless nameless⟩
  · exact (isReadFrom_of_ofText read).isNameless_iff

/-- A transfer with a marked token in upper case, no amount, and a term that nothing reads. -/
theorem ofText_toText_of_ofText_of_spelling :
    let call : Call := .transfer "LP" .zero none
    ofText "ESDTTransfer@0x4C50@@@aa" = .ok call ∧ call.toText = "ESDTTransfer@4c50@00" ∧
      ofText call.toText = .ok call := by
  intro call
  have read : ofText "ESDTTransfer@0x4C50@@@aa" = .ok call := by decide +kernel
  have named : ¬ call.IsNameless := fun nameless => nomatch nameless.2
  exact ⟨read, by decide +kernel, (ofText_toText_of_ofText read).1 named⟩

/-- The mark without digits calls a function without a name, and the canonical text of that
call calls none. -/
theorem ofText_toText_unmarked :
    let call : Call := .transfer "USD" ⟨5, by decide⟩ (some ⟨"", []⟩)
    ofText "ESDTTransfer@555344@05@0x" = .ok call ∧ call.toText = "ESDTTransfer@555344@05@" ∧
      ofText call.toText = .ok (.transfer "USD" ⟨5, by decide⟩ none) ∧
      ofText call.toText ≠ .ok call := by
  intro call
  have lost : ofText call.toText = .ok (.transfer "USD" ⟨5, by decide⟩ none) := by
    decide +kernel
  refine ⟨by decide +kernel, by decide +kernel, lost, ?_⟩
  rw [lost]
  simp [call]

end Call

end ChainActivity
