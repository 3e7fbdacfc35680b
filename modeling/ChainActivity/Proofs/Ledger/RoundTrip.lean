import ChainActivity.Ledger.Document
import ChainActivity.Proofs.Json.RoundTrip
import ChainActivity.Proofs.Text.Digits

/-!
# Classified transactions through JSON text

A classified transaction is read back from the object that it is written as, wherever its
members stand and whatever other members stand between them.

## Main definitions

* `TokenAmount.fitsText` — whether the units of an amount are few enough to be read back.
* `ClassifiedTransaction.meaning` — the members that a classified transaction adds to those of
  its transaction.
* `ClassifiedTransaction.IsForeign` — whether a member is none of these.
* `ClassifiedTransaction.withScaled` — a classified transaction with other numbers to show.

## Main statements

* `TokenAmount.ofJson?_toJson`, `TokenAmount.reread_toJson` — an amount as a document, and the
  document behind its text.
* `Transaction.ofRecord?_of_lookup` — a transaction from its members.
* `ClassifiedTransaction.ofJson?_of_perm` — a classified transaction from a rearranged object.
* `ClassifiedTransaction.ofText?_of_perm` — and from the text of one.
* `ClassifiedTransaction.ofText?_of_rearranged` — it is read at all if its amounts have at most
  sixty-four decimal digits.

## Design notes

The flat object holds the members of two records.  Each of them passes over the names of the
other, so both are found by the lemma about rearranged records.  A text enters only by its
tokens: blanks between them, and which escapes stand for a character, make no difference.
-/

namespace ChainActivity

open Json (named)

/-! ### Amounts -/

namespace TokenAmount

/-- Whether the units of an amount are few enough to be read back. -/
def fitsText (v : TokenAmount) : Bool :=
  v.units.toDecimal.length ≤ Amount.maxSize

/-- An amount is read from its own document, unless its units have too many digits. -/
theorem ofJson?_toJson (v : TokenAmount) :
    ofJson? v.toJson = if v.fitsText then some v else none := by
  have units : unitsOfJson? (.text (String.ofList v.units.toDecimal)) =
      if v.fitsText then some v.units else none := by
    change (Amount.ofText 10 (String.ofList v.units.toDecimal)).toOption = _
    rw [Amount.ofText_toDecimal, fitsText]
    by_cases short : v.units.toDecimal.length ≤ Amount.maxSize
    · simp [short, Except.toOption]
    · simp [short, Except.toOption]
  have record : v.toJson.record? memberNames = some
      ⟨[("raw", .text (String.ofList v.units.toDecimal)), ("decimals", .ofWord32 v.decimals),
        ("value", .number (.real v.scaled)), ("token", .text v.token)]⟩ := rfl
  have decimals := Json.word32?_ofWord32 v.decimals
  by_cases short : v.fitsText = true
  · rw [if_pos short] at units ⊢
    simp [ofJson?, record, Json.Record.need, Json.Record.get, List.lookup, units, decimals,
      Json.double?, Json.string?]
  · rw [if_neg short] at units ⊢
    simp [ofJson?, record, Json.Record.need, List.lookup, units]

/-- Behind the text of an amount is the document of the same amount, but for the number that
a reader sees. -/
theorem reread_toJson {v : TokenAmount} (finite : v.scaled.isFinite = true) :
    ∃ x, v.toJson.reread = { v with scaled := x }.toJson := by
  obtain ⟨x, read⟩ := Json.Number.reread_real finite
  refine ⟨x, ?_⟩
  simp [toJson, Json.ofMembers, Json.reread, Json.rereadMembers, read]

/-- The number that a reader sees of a computed amount is finite. -/
theorem isFinite_scaled_of (units : Amount) (decimals : UInt32) (token : String) :
    (of units decimals token).scaled.isFinite = true := by
  change (Decimal.scale units.toNat decimals).isFinite = true
  rw [Decimal.scale]
  split
  · next finite => exact finite
  · rfl

end TokenAmount

/-! ### Transactions -/

namespace Transaction

/-- A transaction is read from a record in which its members are found. -/
theorem ofRecord?_of_lookup {r : Json.Record} {tx : Transaction}
    (found : ∀ m ∈ tx.members, r.entries.lookup m.1 = some m.2) : ofRecord? r = some tx := by
  simp only [members, List.forall_mem_cons] at found
  obtain ⟨hash, sender, receiver, value, data, nonce, gasLimit, gasPrice, gasUsed, fee, timestamp,
    senderShard, receiverShard, tokens, tokenValues, status, isContractCall, -⟩ := found
  simp [ofRecord?, Json.Record.get, hash, sender, receiver, value, data, nonce, gasLimit, gasPrice,
    gasUsed, fee, timestamp, senderShard, receiverShard, tokens, tokenValues, status,
    isContractCall, Json.string?, Json.flag?]

end Transaction

/-! ### Classified transactions -/

namespace ClassifiedTransaction

/-- The members that a classified transaction adds to those of its transaction. -/
def meaning (c : ClassifiedTransaction) : List (String × Json) :=
  [("type", .text c.activity.name),
    ("function", .ofOption c.function),
    ("effectiveValue", c.effective.toJson),
    ("otherValue", c.other.toJson)]

theorem toJson_eq (c : ClassifiedTransaction) :
    c.toJson = .object (named (c.transaction.members ++ c.meaning)) := rfl

/-- Whether a member is none of a classified transaction, and flat enough to be passed over. -/
def IsForeign (m : Option String × Json) : Prop :=
  ∃ name, m.1 = some name ∧ name ∉ memberNames ∧ name ∉ Transaction.memberNames ∧
    m.2.depth < Json.maxDepth

theorem isOwn_iff (name : String) (v : Json) :
    isOwn (some name, v) = true ↔ name ∈ memberNames := by
  simp [isOwn]

theorem IsForeign.isOwn_eq_false {m : Option String × Json} (foreign : IsForeign m) :
    isOwn m = false := by
  obtain ⟨_, v⟩ := m
  obtain ⟨name, rfl, unlisted, -⟩ := foreign
  rwa [Bool.eq_false_iff, ne_eq, isOwn_iff]

section

variable {c : ClassifiedTransaction} {extras ms : List (Option String × Json)}

/-- Picking out members of a rearranged object picks them out of each part. -/
theorem perm_filter (p : Option String × Json → Bool)
    (rearranged : ms.Perm (named (c.transaction.members ++ c.meaning) ++ extras)) :
    (ms.filter p).Perm ((named c.transaction.members).filter p ++
      ((named c.meaning).filter p ++ extras.filter p)) := by
  have picked := rearranged.filter p
  rwa [named, List.map_append, ← named, ← named, List.filter_append, List.filter_append,
    List.append_assoc] at picked

/-- Of a rearranged object the members of the meaning are picked out. -/
theorem filter_isOwn (foreign : ∀ m ∈ extras, IsForeign m)
    (rearranged : ms.Perm (named (c.transaction.members ++ c.meaning) ++ extras)) :
    (ms.filter isOwn).Perm (named c.meaning ++ []) := by
  have aside : (named c.transaction.members).filter isOwn = [] := rfl
  have own : (named c.meaning).filter isOwn = named c.meaning := rfl
  have others : extras.filter isOwn = [] := by
    rw [List.filter_eq_nil_iff]
    intro m member
    exact Bool.eq_false_iff.mp (foreign m member).isOwn_eq_false
  have picked := perm_filter isOwn rearranged
  rwa [aside, own, others, List.nil_append] at picked

/-- All others are set aside. -/
theorem filter_not_isOwn (foreign : ∀ m ∈ extras, IsForeign m)
    (rearranged : ms.Perm (named (c.transaction.members ++ c.meaning) ++ extras)) :
    (ms.filter fun m => !isOwn m).Perm (named c.transaction.members ++ extras) := by
  have aside : (named c.transaction.members).filter (fun m => !isOwn m) =
    named c.transaction.members := rfl
  have own : (named c.meaning).filter (fun m => !isOwn m) = [] := rfl
  have others : extras.filter (fun m => !isOwn m) = extras := by
    rw [List.filter_eq_self]
    intro m member
    rw [(foreign m member).isOwn_eq_false]
    rfl
  have picked := perm_filter (fun m => !isOwn m) rearranged
  rwa [aside, own, others, List.nil_append] at picked

/-- The members of a transaction can be set aside. -/
theorem canSetAside_of_mem (tx : Transaction) : ∀ m ∈ named tx.members, canSetAside m = true := by
  simp [named, Transaction.members, canSetAside, Json.ofWord64, Json.ofWord32, Json.isReadable,
    Json.depth, Json.maxDepth]

/-- A classified transaction is read from every rearrangement of its members, with foreign ones
between, unless one of its amounts has too many digits. -/
theorem ofJson?_of_perm (foreign : ∀ m ∈ extras, IsForeign m)
    (readable : ∀ m ∈ extras, m.2.isReadable = true)
    (rearranged : ms.Perm (named (c.transaction.members ++ c.meaning) ++ extras)) :
    ofJson? (.object ms) = if c.effective.fitsText && c.other.fitsText then some c else none := by
  have picked := filter_isOwn foreign rearranged
  have left := filter_not_isOwn foreign rearranged
  have ours : ∃ own, Json.knownMembers? memberNames (ms.filter isOwn) = some own ∧
      ∀ m ∈ c.meaning, own.lookup m.1 = some m.2 :=
    Json.exists_knownMembers? (by simp [meaning, memberNames]) (by simp [meaning]) (by simp) picked
  have theirs : ∃ known,
      Json.knownMembers? Transaction.memberNames (ms.filter fun m => !isOwn m) = some known ∧
        ∀ m ∈ c.transaction.members, known.lookup m.1 = some m.2 := by
    refine Json.exists_knownMembers? (by simp [Transaction.members, Transaction.memberNames])
      (by simp [Transaction.members]) (fun m member => ?_) left
    obtain ⟨name, same, -, unlisted, -⟩ := foreign m member
    exact ⟨name, unlisted, same⟩
  obtain ⟨own, ownFound, ownLookup⟩ := ours
  obtain ⟨known, found, lookup⟩ := theirs
  -- what is set aside must be readable as a whole, foreign members included
  have aside : (ms.filter fun m => !isOwn m).all canSetAside = true := by
    rw [List.all_eq_true]
    intro m member
    rcases List.mem_append.mp (left.mem_iff.mp member) with own | extra
    · exact canSetAside_of_mem c.transaction m own
    · obtain ⟨name, same, -, -, shallow⟩ := foreign m extra
      simp [canSetAside, same, readable m extra, shallow]
  have transaction := Transaction.ofRecord?_of_lookup (r := ⟨known⟩) lookup
  simp only [meaning, List.forall_mem_cons] at ownLookup
  obtain ⟨type, function, effective, other, -⟩ := ownLookup
  have activity : Activity.ofJson? (.text c.activity.name) = some c.activity :=
    Activity.ofName?_name c.activity
  have read : ofJson? (.object ms) = (TokenAmount.ofJson? c.effective.toJson).bind fun v =>
      (TokenAmount.ofJson? c.other.toJson).bind fun w =>
        some { c with effective := v, other := w } := by
    simp [ofJson?, ownFound, aside, found, transaction, Json.Record.need, Json.Record.get, type,
      function, effective, other, activity]
  rw [read, TokenAmount.ofJson?_toJson, TokenAmount.ofJson?_toJson]
  cases c.effective.fitsText <;> cases c.other.fitsText <;> rfl

end

/-! ### Texts -/

/-- A classified transaction with other numbers to show. -/
def withScaled (c : ClassifiedTransaction) (x y : Float) : ClassifiedTransaction :=
  { c with effective := { c.effective with scaled := x }, other := { c.other with scaled := y } }

/-- Behind the text of a classified transaction is its document, but for the numbers to show. -/
theorem exists_rereadMembers {c : ClassifiedTransaction}
    (effective : c.effective.scaled.isFinite = true) (other : c.other.scaled.isFinite = true) :
    ∃ x y, Json.rereadMembers (named (c.transaction.members ++ c.meaning)) =
      named (c.transaction.members ++ (c.withScaled x y).meaning) := by
  obtain ⟨x, first⟩ := TokenAmount.reread_toJson effective
  obtain ⟨y, second⟩ := TokenAmount.reread_toJson other
  refine ⟨x, y, ?_⟩
  have transaction : c.transaction.members.map (fun m => (m.1, m.2.reread)) =
      c.transaction.members := by
    simp [Transaction.members, Json.reread]
  have meaning : c.meaning.map (fun m => (m.1, m.2.reread)) =
      (c.withScaled x y).meaning := by
    simp [ClassifiedTransaction.meaning, withScaled, Json.reread, first, second]
  rw [Json.rereadMembers_named, List.map_append, transaction, meaning]

/-- A foreign member is foreign behind its text, and has a value everywhere. -/
theorem isForeign_of_mem_rereadMembers {extras : List (Option String × Json)}
    (foreign : ∀ m ∈ extras, IsForeign m) :
    ∀ m ∈ Json.rereadMembers extras, IsForeign m ∧ m.2.isReadable = true := by
  intro m member
  rw [Json.rereadMembers_eq_map] at member
  obtain ⟨⟨key, v⟩, extra, rfl⟩ := List.mem_map.mp member
  obtain ⟨name, rfl, notMeaning, notTransaction, shallow⟩ := foreign _ extra
  refine ⟨⟨name, rfl, notMeaning, notTransaction, ?_⟩, Json.isReadable_reread v⟩
  rwa [Json.depth_reread]

/-- A classified transaction is read from every text of a rearrangement of its members, with
foreign ones between, unless one of its amounts has too many digits. -/
theorem ofText?_of_perm {c : ClassifiedTransaction} {extras ms : List (Option String × Json)}
    {text : String} (effective : c.effective.scaled.isFinite = true)
    (other : c.other.scaled.isFinite = true) (foreign : ∀ m ∈ extras, IsForeign m)
    (rearranged : ms.Perm (named (c.transaction.members ++ c.meaning) ++ extras))
    (same : Json.tokens? text.toList = Json.tokens? (Json.object ms).render) :
    ∃ x y, ofText? text =
      if c.effective.fitsText && c.other.fitsText then some (c.withScaled x y) else none := by
  obtain ⟨x, y, members⟩ := exists_rereadMembers effective other
  have moved : (Json.rereadMembers ms).Perm
      (named ((c.withScaled x y).transaction.members ++ (c.withScaled x y).meaning) ++
        Json.rereadMembers extras) := by
    have mapped := rearranged.map fun m => (some (m.1.getD ""), m.2.reread)
    rw [List.map_append] at mapped
    simp only [← Json.rereadMembers_eq_map, members] at mapped
    exact mapped
  have strangers := isForeign_of_mem_rereadMembers foreign
  refine ⟨x, y, ?_⟩
  -- from here on no text is left: the document behind it is a rearrangement, too
  rw [ofText?, Json.ofText?_of_tokens? same, Option.bind_some]
  exact ofJson?_of_perm (fun m member => (strangers m member).1)
    (fun m member => (strangers m member).2) moved

/-- In particular, it is read from its own text. -/
theorem ofText?_toText {c : ClassifiedTransaction} (effective : c.effective.scaled.isFinite = true)
    (other : c.other.scaled.isFinite = true) :
    ∃ x y, ofText? c.toText =
      if c.effective.fitsText && c.other.fitsText then some (c.withScaled x y) else none := by
  have foreign : ∀ m ∈ ([] : List (Option String × Json)), IsForeign m := by simp
  have whole : (named (c.transaction.members ++ c.meaning)).Perm
      (named (c.transaction.members ++ c.meaning) ++ []) := by rw [List.append_nil]
  exact ofText?_of_perm effective other foreign whole (congrArg Json.tokens? c.toJson.toList_toText)

/-- A text with the members of a classified transaction, in any order and with foreign ones
between, is read as this classified transaction, but for the numbers to show. -/
theorem ofText?_of_rearranged {c : ClassifiedTransaction}
    {own extras ms : List (Option String × Json)} {text : String}
    (effective : c.effective.scaled.isFinite = true ∧ c.effective.units.toDecimal.length ≤ 64)
    (other : c.other.scaled.isFinite = true ∧ c.other.units.toDecimal.length ≤ 64)
    (written : c.toJson = .object own) (foreign : ∀ m ∈ extras, IsForeign m)
    (rearranged : ms.Perm (own ++ extras))
    (same : Json.tokens? text.toList = Json.tokens? (Json.object ms).render) :
    ∃ x y, ofText? text = some (c.withScaled x y) := by
  rw [toJson_eq] at written
  cases written
  have fits : (c.effective.fitsText && c.other.fitsText) = true := by
    rw [Bool.and_eq_true]
    exact ⟨decide_eq_true effective.2, decide_eq_true other.2⟩
  obtain ⟨x, y, read⟩ := ofText?_of_perm effective.1 other.1 foreign rearranged same
  exact ⟨x, y, by rw [read, if_pos fits]⟩

/-- A payment of seven units. -/
def sevenUnits : ClassifiedTransaction where
  transaction := { hash := "ab", sender := "alice", receiver := "bob", value := "7" }
  activity := .send
  function := none
  effective := .of ⟨7, by decide⟩ 1 "A-1"
  other := .absent

/-- A payment is read with a remark in front of its members. -/
theorem ofText?_of_remark_in_front :
    ∃ own x y, sevenUnits.toJson = .object own ∧
      ofText? (Json.object ((some "remark", .list [.text "\n"]) :: own)).toText =
        some (sevenUnits.withScaled x y) := by
  have foreign : IsForeign (some "remark", .list [.text "\n"]) :=
    ⟨"remark", rfl, by decide, by decide, by decide⟩
  obtain ⟨x, y, read⟩ := ofText?_of_rearranged (c := sevenUnits)
    ⟨TokenAmount.isFinite_scaled_of .., by decide⟩ ⟨TokenAmount.isFinite_scaled_of .., by decide⟩
    sevenUnits.toJson_eq (List.forall_mem_singleton.mpr foreign)
    (List.perm_append_singleton _ _).symm (congrArg Json.tokens? (Json.toList_toText _))
  exact ⟨_, x, y, sevenUnits.toJson_eq, read⟩

end ClassifiedTransaction

end ChainActivity
