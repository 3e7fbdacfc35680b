import ChainActivity.Proofs.Call.Layout
import ChainActivity.Proofs.Classification.DecisionTable
import ChainActivity.Proofs.Classification.Transfers

/-!
# Notes in the payload

The payload of a transaction that no contract took part in may be a note to the receiver, and
the transaction is then a plain movement of value, whatever the note says.  A transfer of
tokens counts as the work of contracts even where nothing else says so, and it is recognised
by how its text begins.  A note whose first term only begins with the name of a transfer is
taken for one, and since it is none it becomes a call of a contract.

## Main definitions

* `Transaction.Names` — the first term of the payload.
* `Call.BeginsLikeTransfer` — names that begin with the name of a transfer.

## Main statements

* `Call.isTransferText_iff` — a text begins like a transfer exactly if its first term does.
* `ContractFunction.ofName?_of_beginsLikeTransfer` — no function has such a name.
* `classify_of_note` — what a transaction with a note means.
* `classify_note_ne_movement` — it need not be a movement of value.

## Design notes

The name of a transfer holds no `@`, so a text that begins with it has a first term that does.
The two ways to recognise a transfer, by the beginning of the text and by the first term,
differ only in terms that go on behind the name.
-/

namespace ChainActivity

/-! ### First terms -/

/-- A list begins with one that does not hold `x` exactly if its first piece, cut at `x`,
does. -/
theorem isPrefix_headD_splitOn {α : Type} [BEq α] [LawfulBEq α] {x : α} {start xs : List α}
    (absent : x ∉ start) (begins : start <+: xs) : start <+: (xs.splitOn x).headD [] := by
  induction start generalizing xs with
  | nil => exact List.nil_prefix
  | cons a start ih =>
    cases xs with
    | nil => cases List.prefix_nil.mp begins
    | cons b xs =>
      obtain ⟨rfl, later⟩ := List.cons_prefix_cons.mp begins
      rw [List.mem_cons, not_or] at absent
      have differs : ¬ (a == x) = true := fun same => absent.1 (beq_iff_eq.mp same).symm
      rw [List.splitOn_cons_eq_if_modifyHead, if_neg differs]
      rcases cut : xs.splitOn x with _ | ⟨first, rest⟩
      · exact absurd cut (List.splitOn_ne_nil x xs)
      · have inside := ih absent.2 later
        rw [cut] at inside
        exact List.cons_prefix_cons.mpr ⟨rfl, inside⟩

namespace Call

/-- Whether a name begins with the name of a transfer. -/
def BeginsLikeTransfer (name : String) : Prop :=
  ∃ transfer ∈ transferNames, transfer.toList <+: name.toList

/-- A text begins like a transfer exactly if its first term does. -/
theorem isTransferText_iff (text : String) :
    isTransferText text = true ↔ BeginsLikeTransfer ((terms text).headD "") := by
  have first : ((terms text).headD "").toList = (text.toList.splitOn '@').headD [] := by
    rw [terms]
    cases text.toList.splitOn '@' <;> simp
  have whole : ∀ name ∈ transferNames, '@' ∉ name.toList := by decide
  rw [isTransferText, List.any_eq_true]
  constructor
  · rintro ⟨name, listed, begins⟩
    refine ⟨name, listed, first ▸ ?_⟩
    exact isPrefix_headD_splitOn (whole name listed) (List.isPrefixOf_iff_prefix.mp begins)
  · rintro ⟨name, listed, begins⟩
    exact ⟨name, listed,
      List.isPrefixOf_iff_prefix.mpr (begins.trans (headD_terms_isPrefix text))⟩

end Call

/-- No function has a name that begins with the name of a transfer. -/
theorem ContractFunction.ofName?_of_beginsLikeTransfer {name : String}
    (resembles : Call.BeginsLikeTransfer name) : ofName? name = none := by
  obtain ⟨transfer, listed, begins⟩ := resembles
  have apart : ∀ f ∈ all, ∀ transfer ∈ Call.transferNames,
      f.name.toList.isPrefixOf transfer.toList = false ∧
        transfer.toList.isPrefixOf f.name.toList = false := by decide
  rw [Option.eq_none_iff_forall_not_mem]
  intro f found
  have own : f.name.toList <+: name.toList := by
    rcases ofName?_eq_some_iff.mp found with rfl | ⟨-, own⟩
    · exact List.prefix_refl _
    · exact own
  obtain ⟨shorter, longer⟩ := apart f (mem_all f) transfer listed
  rcases List.prefix_or_prefix_of_prefix own begins with inside | inside
  · rw [List.isPrefixOf_iff_prefix.mpr inside] at shorter
    cases shorter
  · rw [List.isPrefixOf_iff_prefix.mpr inside] at longer
    cases longer

/-! ### Payloads -/

/-- Whether the payload of a transaction can be read, and what its first term is. -/
def Transaction.Names (tx : Transaction) (name : String) : Prop :=
  ∃ data text, tx.payload? = some data ∧ Payload.text data = .ok text ∧
    (Call.terms text).headD "" = name

namespace Viewpoint

variable {v : Viewpoint}

theorem hasTransferPayload_iff :
    v.hasTransferPayload = true ↔
      ∃ name, v.transaction.Names name ∧ Call.BeginsLikeTransfer name := by
  rw [hasTransferPayload]
  constructor
  · intro has
    split at has
    · cases has
    · next data payload =>
      split at has
      · next text written =>
        exact ⟨_, ⟨data, text, payload, written, rfl⟩, (Call.isTransferText_iff text).mp has⟩
      · cases has
  · rintro ⟨name, ⟨data, text, payload, written, rfl⟩, resembles⟩
    simp only [payload, written]
    exact (Call.isTransferText_iff text).mpr resembles

/-- Without a mark and without results, only the payload can tell that contracts took part. -/
theorem hasContractMarks_iff_of_note (unmarked : v.transaction.isContractCall = false)
    (alone : v.results = []) :
    v.hasContractMarks = true ↔
      ∃ name, v.transaction.Names name ∧ Call.BeginsLikeTransfer name := by
  rw [hasContractMarks, unmarked, alone, ← hasTransferPayload_iff]
  simp

/-- A payload whose first term begins like a transfer, but is not the name of one, is a call
that has no meaning of its own. -/
theorem findPayload_of_beginsLikeTransfer {name : String} (names : v.transaction.Names name)
    (other : name ∉ Call.transferNames) (resembles : Call.BeginsLikeTransfer name) :
    ∃ data args, v.transaction.payload? = some data ∧
      v.findPayload data =
        .ok (.generic ⟨name, args⟩,
          ⟨if v.transaction.sender = metachain then .receiveValidationReward else .contractCall,
            v.declared, .absent, some name⟩) := by
  obtain ⟨data, text, payload, written, rfl⟩ := names
  let invocation : Invocation := ⟨(Call.terms text).headD "", (Call.terms text).drop 1⟩
  have read : Call.ofPayload data = .ok (.generic invocation) :=
    Call.ofPayload_eq_ok_iff.mpr
      ⟨text, written, Call.ofTerms_eq_ok_iff.mpr (.generic other)⟩
  have meaning : v.find (.generic invocation) =
      .ok ⟨if v.transaction.sender = metachain then .receiveValidationReward else .contractCall,
        v.declared, .absent, some invocation.function⟩ := by
    rw [find, findGeneric, ContractFunction.ofName?_of_beginsLikeTransfer resembles]
    simp only [isFromProtocol, decide_eq_true_eq]
  refine ⟨data, (Call.terms text).drop 1, payload, ?_⟩
  simp only [findPayload, read, bind, Except.bind, meaning, invocation]

end Viewpoint

/-- **Notes to the receiver.**  A transaction without results that is not marked as a call, and
whose payload is no transfer, is a movement of the declared value, unless the first term of
the payload begins with the name of a transfer and goes on behind it.  Then it is a call of a
contract by that term, although no contract took part in it. -/
theorem classify_of_note (decimals : Decimals) (account : Option String) {tx : Transaction}
    (unmarked : tx.isContractCall = false)
    (note : ∀ name ∈ Call.transferNames, ¬ tx.Names name) :
    let declared : TokenAmount := .ofDecimalOrZero decimals Token.native tx.value
    ((∀ name, tx.Names name → ¬ Call.BeginsLikeTransfer name) →
        classify decimals account tx [] =
          ⟨tx, if tx.sender = account.getD tx.sender then .send else .receive, none, declared,
            .absent⟩) ∧
      ∀ name, tx.Names name → Call.BeginsLikeTransfer name →
        classify decimals account tx [] =
          ⟨tx, if tx.sender = metachain then .receiveValidationReward else .contractCall,
            some name, declared, .absent⟩ := by
  intro declared
  let v : Viewpoint := ⟨tx, [], account.getD tx.sender, decimals⟩
  have marks : v.hasContractMarks = true ↔ ∃ name, tx.Names name ∧ Call.BeginsLikeTransfer name :=
    Viewpoint.hasContractMarks_iff_of_note unmarked rfl
  constructor
  · intro unlike
    have alone : ¬ v.hasContractMarks = true := by
      rw [marks]
      rintro ⟨name, names, resembles⟩
      exact unlike name names resembles
    have moved : v.direction = if tx.sender = account.getD tx.sender then .send else .receive :=
      Viewpoint.direction_eq
    change v.classified = _
    rw [Viewpoint.classified, if_neg alone, moved]
    rfl
  · intro name names resembles
    have marked : v.hasContractMarks = true := marks.mpr ⟨name, names, resembles⟩
    have other : name ∉ Call.transferNames := fun listed => note name listed names
    obtain ⟨data, args, payload, found⟩ :=
      v.findPayload_of_beginsLikeTransfer names other resembles
    change v.classified = _
    rw [Viewpoint.classified, if_pos marked, payload]
    simp only [found]
    rfl

/-- A transaction with a note that begins with the letters of a transfer. -/
def thanksNote : Transaction :=
  { sender := "a", receiver := "b", value := "5", data := some "RVNEVFRyYW5zZmVycmVkLCB0aGFua3M=" }

theorem names_thanksNote_iff {name : String} :
    thanksNote.Names name ↔ name = "ESDTTransferred, thanks" := by
  have payload : thanksNote.payload? = some "RVNEVFRyYW5zZmVycmVkLCB0aGFua3M=" := by
    decide +kernel
  have written : Payload.text "RVNEVFRyYW5zZmVycmVkLCB0aGFua3M=" =
      .ok "ESDTTransferred, thanks" := by decide +kernel
  have first : (Call.terms "ESDTTransferred, thanks").headD "" = "ESDTTransferred, thanks" := by
    decide +kernel
  constructor
  · rintro ⟨data, text, payload', written', rfl⟩
    obtain rfl := Option.some.inj (payload.symm.trans payload')
    obtain rfl := Except.ok.inj (written.symm.trans written')
    exact first
  · rintro rfl
    exact ⟨_, _, payload, written, first⟩

/-- The note names no transfer. -/
theorem not_names_thanksNote : ∀ name ∈ Call.transferNames, ¬ thanksNote.Names name := by
  intro name listed names
  obtain rfl := names_thanksNote_iff.mp names
  exact absurd listed (by decide)

/-- A note is taken for a call of a contract, and its text for a function. -/
theorem classify_of_note_of_thanks :
    thanksNote.isContractCall = false ∧
      classify (fun _ => none) none thanksNote [] =
        ⟨thanksNote, .contractCall, some "ESDTTransferred, thanks",
          .ofDecimalOrZero (fun _ => none) Token.native "5", .absent⟩ := by
  refine ⟨rfl, ?_⟩
  exact (classify_of_note _ none rfl not_names_thanksNote).2 _ (names_thanksNote_iff.mpr rfl)
    ⟨Call.transferName, by decide, by decide⟩

/-- A transaction that no contract took part in, and whose payload is no transfer, need not be
a movement of value.  The text is taken for a transfer, but it is read as another call. -/
theorem classify_note_ne_movement :
    thanksNote.isContractCall = false ∧
      (∀ name ∈ Call.transferNames, ¬ thanksNote.Names name) ∧
      Call.isTransferText "ESDTTransferred, thanks" = true ∧
      Call.ofText "ESDTTransferred, thanks" = .ok (.generic ⟨"ESDTTransferred, thanks", []⟩) ∧
      (classify (fun _ => none) none thanksNote []).activity ≠ .send ∧
      (classify (fun _ => none) none thanksNote []).activity ≠ .receive ∧
      (classify (fun _ => none) none thanksNote []).function ≠ none := by
  refine ⟨rfl, not_names_thanksNote, ?_⟩
  decide +kernel

end ChainActivity
