import ChainActivity.Proofs.Classification.Transfers
import ChainActivity.Proofs.CommandLine.Records
import ChainActivity.Proofs.Token.SharedTier

/-!
# Transfers of tokens that call nothing, as the command prints them

The amount that a transfer of tokens is about is its first payment.  The command shows it
with the decimal places that the options give the collection of the token; the native
token keeps its own.

## Main definitions

* `Command.GivesLast` — the decimal places that the options give a token last.
* `SharedTier.Permits` — whether a shared tier has no other decimal places for a collection.

## Main statements

* `Viewpoint.effective_classified_of_plain` — the amount of a transfer that calls nothing.
* `Command.decimals_native`, `Command.decimals_of_givesLast` — the decimal places that are found.
* `Command.outcome_of_plain_transfer` — how the transfer is printed.
* `Command.outcome_ignores_options` — options that have no effect.

## Design notes

A table of decimal places knows identifiers and collections.  The command does not ask
it for identifiers: answers are cached by collection, and every item shares the answer
of its collection.  So an option counts for all tokens whose collection it names.

A shared tier is asked before the options are, and may have answers that other options gave to
an earlier run.
-/

namespace ChainActivity

/-! ### Transfers -/

namespace Viewpoint

variable {v : Viewpoint} {call : Call} {p : Payment}

/-- The finding for a transfer that calls nothing is about its first payment. -/
theorem find_of_plain (plain : call.invocation? = none) (first : call.payments.head? = some p) :
    ∃ other, v.find call = .ok ⟨v.direction, p.value v.decimals, other, none⟩ := by
  cases call with
  | transfer token amount called =>
    obtain rfl : called = none := plain
    obtain rfl := Option.some.inj first
    exact ⟨.absent, rfl⟩
  | itemTransfer payment destination called =>
    obtain rfl : called = none := plain
    obtain rfl := Option.some.inj first
    exact ⟨.absent, rfl⟩
  | multiTransfer destination payments called =>
    obtain rfl : called = none := plain
    obtain ⟨others, rfl⟩ := List.head?_eq_some_iff.mp first
    exact ⟨_, rfl⟩
  | generic invocation => cases plain

/-- The amount of a transfer that calls nothing is its first payment. -/
theorem effective_classified_of_plain {data : String} (declared : v.transaction.data = some data)
    (readable : Call.ofPayload data = .ok call) (plain : call.invocation? = none)
    (first : call.payments.head? = some p) : v.classified.effective = p.value v.decimals := by
  have member : p ∈ call.payments := List.mem_of_head? first
  have payload : v.transaction.payload? = some data :=
    Transaction.payload?_of_mem_payments declared readable member
  have marked : v.hasContractMarks = true :=
    hasContractMarks_of_mem_payments payload readable member
  obtain ⟨other, found⟩ := find_of_plain (v := v) plain first
  rw [classified_of_find marked payload readable found]
  rfl

end Viewpoint

/-! ### Options -/

namespace Command

/-- Whether options give a token decimal places, and no other ones later. -/
def GivesLast (a : Arguments) (token : String) (places : UInt32) : Prop :=
  ∃ before after, a.decimals = before ++ (token, places) :: after ∧
    ∀ entry ∈ after, entry.1 ≠ token

/-- What the options give a collection last is what they say about it. -/
theorem source_of_givesLast {a : Arguments} {collection : String} {places : UInt32}
    (given : GivesLast a collection places) (whole : Token.collection collection = collection) :
    (DecimalsTable.ofList a.decimals).source collection = .ok places := by
  obtain ⟨before, after, options, others⟩ := given
  have entry : (DecimalsTable.ofList a.decimals).get? collection = some places := by
    rw [options]
    exact Keyed.get?_foldl_insert_append Prod.fst Prod.snd before (collection, places) others
      DecimalsTable.nativeOnly
  rw [DecimalsTable.source, DecimalsTable.find?, whole, Option.or_self, entry]

end Command

/-! ### Shared tiers -/

namespace SharedTier

/-- Whether a tier has no other decimal places for a collection than some, as long as no others
are stored in it. -/
def Permits (tier : SharedTier) (collection : String) (places : UInt32) : Prop :=
  ∃ sound, sound tier.state ∧
    tier.backend.Obeys (Directory.Permits .standard collection places) sound

theorem permits_absent (collection : String) (places : UInt32) :
    absent.Permits collection places :=
  ⟨fun _ => True, trivial, nofun, fun _ _ _ => id, fun _ _ _ _ _ sound _ => sound,
    fun _ _ _ => id, fun _ _ => id⟩

/-- A tier that keeps texts like one in memory, but can name all moments. -/
def ofTexts (texts : ExpiringTexts) : SharedTier where
  backend :=
    { Backend.memory with
      set key text lifetime now m := (.value (.ok ()), m.store key text (now + lifetime)) }
  state := texts
  completes _ _ _ _ _ _ _ := nofun

/-- Such a tier has no other decimal places for a collection if it has no text for it that can be
read. -/
theorem permits_ofTexts {texts : ExpiringTexts} {collection : String} (places : UInt32)
    (unread : ∀ e, texts.get? (CacheConfig.standard.key (Directory.slot collection)) = some e →
      Codec.word32.decode e.text = none) : (ofTexts texts).Permits collection places := by
  have law : (ofTexts texts).backend.KeepsTexts id :=
    { get_answer := fun _ _ _ _ found => Except.ok.inj found
      get_kept := fun _ _ _ => rfl
      set_kept := fun _ _ _ _ _ => .inr rfl
      ttl_kept := fun _ _ _ => rfl
      flush_kept := fun _ _ => .inr rfl }
  refine ⟨_, ?_, law.obeys _⟩
  rintro key e found rfl known read
  exact nomatch (unread e found).symm.trans read

end SharedTier

namespace Command

section Decimals

variable {a : Arguments} {records : List LedgerRecord} {r : LedgerRecord} {p : Payment}
  {data : String} {call : Call}

/-- The native token keeps its decimal places, whatever the options and a shared tier say. -/
theorem decimals_native (around : Surroundings) (a : Arguments) (records : List LedgerRecord) :
    decimals around a records Token.native = some Token.nativeDecimals := by
  obtain ⟨table, filled⟩ := exists_tableOf around a records
  rw [decimals, filled]
  exact Directory.find?_native_of_run_tableFor filled

/-- The tokens that a transaction of a file moves are looked up. -/
theorem token_mem_batchTokens (among : r ∈ records)
    (declared : r.transaction.data = some data) (readable : Call.ofPayload data = .ok call)
    (moved : p ∈ call.payments) (byHash : ResultsByHash) :
    let txs := records.map LedgerRecord.transaction
    p.token ∈ batchTokens txs (knownResults byHash txs) := by
  intro txs
  have payload : r.transaction.payload? = some data :=
    Transaction.payload?_of_mem_payments declared readable moved
  have paired : (r.transaction, (byHash r.transaction.hash).getD []) ∈
      txs.zip (knownResults byHash txs) := by
    rw [knownResults, ← List.map_prod_left_eq_zip]
    exact List.mem_map_of_mem (List.mem_map_of_mem among)
  exact mem_batchTokens paired (token_mem_referencedTokens_of_payload payload readable moved)

/-- A token whose collection is given decimal places has some. -/
theorem exists_decimals_of_givesLast (around : Surroundings) {places : UInt32} (among : r ∈ records)
    (declared : r.transaction.data = some data) (readable : Call.ofPayload data = .ok call)
    (moved : p ∈ call.payments) (given : GivesLast a (Token.collection p.token) places) :
    ∃ known, decimals around a records p.token = some known := by
  obtain ⟨table, filled⟩ := exists_tableOf around a records
  rw [decimals, filled]
  exact Directory.exists_find?_of_run_tableFor filled
    (token_mem_batchTokens among declared readable moved _)
    (source_of_givesLast given (Token.collection_collection _))

/-- It has those that it is given last, unless a shared tier has others. -/
theorem decimals_of_givesLast {around : Surroundings} {places : UInt32} (among : r ∈ records)
    (declared : r.transaction.data = some data) (readable : Call.ofPayload data = .ok call)
    (moved : p ∈ call.payments) (foreign : p.token ≠ Token.native)
    (given : GivesLast a (Token.collection p.token) places)
    (permits : (around.tier a).Permits (Token.collection p.token) places) :
    decimals around a records p.token = some places := by
  obtain ⟨sound, only, law⟩ := permits
  obtain ⟨table, filled⟩ := exists_tableOf around a records
  have start : Session.Holds (Directory.Permits .standard (Token.collection p.token) places) sound
      (⟨around.now, ⟨.empty, (around.tier a).state⟩, []⟩ : Session String _) := ⟨nofun, only⟩
  rw [decimals, filled]
  exact start.find?_of_run_tableFor law (source_of_givesLast given (Token.collection_collection _))
    (fun same => foreign (Token.collection_eq_native_iff.mp same)) _ filled
    (token_mem_batchTokens among declared readable moved _) rfl

end Decimals

/-- A transfer that calls nothing is printed with its first payment in full.  The native
token is shown with its own decimal places, whatever the options say.  Any other token is shown
with those that the options give its collection last, which is the token itself unless its
identifier has a second dash; only a shared tier that already has others for the collection comes
before them. -/
theorem outcome_of_plain_transfer (around : Surroundings) (a : Arguments) {bytes : List UInt8}
    {text : String} {before : List LedgerRecord} {r : LedgerRecord} {after : List LedgerRecord}
    {data : String} {call : Call} {p : Payment} (decoded : Utf8.decode? bytes = some text)
    (read : LedgerRecord.ofText? text = some (before ++ r :: after))
    (declared : r.transaction.data = some data) (readable : Call.ofPayload data = .ok call)
    (plain : call.invocation? = none) (first : call.payments.head? = some p) :
    ∃ printed c, outcome around a (some bytes) = .printed printed ∧
      printed[before.length]? = some (ClassifiedTransaction.toText c) ∧
      (p.token = Token.native → c.effective = .of p.amount 18 Token.native) ∧
      (p.token ≠ Token.native → ∀ places,
        GivesLast a (Token.collection p.token) places ∨
            p.token.toList.count '-' ≤ 1 ∧ GivesLast a p.token places →
          (∃ known, c.effective = .of p.amount known p.token) ∧
            (a.redisUrl.bind around.connect = none ∨
                (around.tier a).Permits (Token.collection p.token) places →
              c.effective = .of p.amount places p.token)) := by
  let records := before ++ r :: after
  have among : r ∈ records := List.mem_append_right before (List.mem_cons_self ..)
  have moved : p ∈ call.payments := List.mem_of_head? first
  obtain ⟨last, isLast⟩ :=
    LedgerRecord.exists_isLast ⟨r, List.mem_cons_self (a := r) (l := after), rfl⟩
  have effective : (classify (decimals around a records) a.reference r.transaction
      last.results).effective = p.value (decimals around a records) :=
    Viewpoint.effective_classified_of_plain declared readable plain first
  refine ⟨_, _, outcome_eq_printed around a decoded read,
    getElem?_lines around a before r after isLast, ?_, ?_⟩
  · intro native
    have known : decimals around a records p.token = some Token.nativeDecimals :=
      native ▸ decimals_native around a records
    rw [effective, Payment.value_of_known known, native]
    rfl
  · intro foreign places given
    have collective : GivesLast a (Token.collection p.token) places := by
      rcases given with collective | ⟨few, own⟩
      · exact collective
      · rw [(Token.collection_eq_self_iff p.token).mpr few]
        exact own
    rw [effective]
    constructor
    · obtain ⟨known, found⟩ :=
        exists_decimals_of_givesLast around among declared readable moved collective
      exact ⟨known, Payment.value_of_known found⟩
    · intro tier
      have permits : (around.tier a).Permits (Token.collection p.token) places := by
        rcases tier with alone | permits
        · rw [Surroundings.tier, alone]
          exact SharedTier.permits_absent _ _
        · exact permits
      exact Payment.value_of_known
        (decimals_of_givesLast among declared readable moved foreign collective permits)

/-- A transfer of a million units of the native token. -/
def nativePayload : String := "RVNEVFRyYW5zZmVyQDQ1NDc0YzQ0QDBmNDI0MA=="

/-- A transfer of one item of a collection. -/
def itemPayload : String :=
  "RVNEVE5GVFRyYW5zZmVyQDQ2NDE1MjRkMmQ2MTYyNjMzMTMyMzNAMGFAMDFAMDAw" ++
    "MDAwMDAwMDAwMDAwMDAwMDAwMDAwMDAwMDAwMDAwMDAwMDAwMDAwMDAwMDAwMDAwMDAwMDAwMDAwMDAwMA=="

/-- The item that is transferred. -/
def itemPayment : Payment := ⟨"FARM-abc123", 10, ⟨1, by decide⟩⟩

theorem ofPayload_itemPayload :
    Call.ofPayload itemPayload =
      .ok (.itemTransfer itemPayment ⟨List.replicate 32 0, by decide⟩ none) := by
  decide +kernel

/-- A file of the two transfers. -/
def transfersText : String :=
  "[\x7b\"transaction\":\x7b\"data\":\"" ++ nativePayload ++
    "\"\x7d\x7d,\x7b\"transaction\":\x7b\"data\":\"" ++ itemPayload ++ "\"\x7d\x7d]"

/-- A record that has nothing but a payload. -/
def recordOf (payload : String) : LedgerRecord := ⟨{ data := some payload }, []⟩

theorem ofText?_transfersText :
    LedgerRecord.ofText? transfersText =
      some ([recordOf nativePayload] ++ recordOf itemPayload :: []) := by
  decide +kernel

/-- Surroundings in which every address leads to a tier that has decimal places for one
collection. -/
def surroundingsWith (collection text : String) : Surroundings where
  now := 0
  connect _ := some (.ofTexts (Keyed.empty.insert
    (CacheConfig.standard.key (Directory.slot collection)) ⟨text, Duration.seconds 3600⟩))

/-- A command that prints with the given options and looks for a shared tier. -/
def argumentsWith (options : List (String × UInt32)) : Arguments :=
  ⟨"input.json", none, options, some "redis://cache", .info, 100, 4⟩

/-- An item whose collection is given decimal places twice, and the identifier of the item
once more behind them.  A shared tier has decimal places for another collection. -/
theorem outcome_of_item_transfer :
    let around := surroundingsWith "FARM-abc124" "6"
    let a := argumentsWith [("FARM-abc123", 6), ("FARM-abc123", 18), ("FARM-abc123-0a", 2)]
    ∃ printed c, outcome around a (some (Utf8.encode transfersText.toList)) = .printed printed ∧
      printed[1]? = some (ClassifiedTransaction.toText c) ∧
      c.effective = .of itemPayment.amount 18 "FARM-abc123-0a" := by
  intro around a
  have foreign : itemPayment.token ≠ Token.native := by decide +kernel
  have collective : Token.collection itemPayment.token = "FARM-abc123" := by decide +kernel
  have given : GivesLast a (Token.collection itemPayment.token) 18 := by
    rw [collective]
    exact ⟨[("FARM-abc123", 6)], [("FARM-abc123-0a", 2)], rfl, by decide⟩
  have permits : (around.tier a).Permits (Token.collection itemPayment.token) 18 := by
    rw [collective]
    refine SharedTier.permits_ofTexts 18 fun e found => ?_
    rw [Keyed.get?_insert_of_ne _ (by decide +kernel)] at found
    exact nomatch found
  obtain ⟨printed, c, done, line, -, known⟩ :=
    outcome_of_plain_transfer around a (Utf8.decode?_encode transfersText) ofText?_transfersText rfl
      ofPayload_itemPayload rfl rfl
  have token : itemPayment.token = "FARM-abc123-0a" := by decide +kernel
  exact ⟨printed, c, done, line, token ▸ (known foreign 18 (.inl given)).2 (.inr permits)⟩

/-- Whether the command prints transactions that are about certain amounts, each given by its
token, its decimal places and its units. -/
def PrintsAmounts (around : Surroundings) (a : Arguments) (bytes : List UInt8)
    (amounts : List (String × UInt32 × Nat)) : Prop :=
  ∃ classified : List ClassifiedTransaction,
    outcome around a (some bytes) = .printed (classified.map ClassifiedTransaction.toText) ∧
    (classified.map fun c => (c.effective.token, c.effective.decimals, c.effective.units.toNat)) =
      amounts

/-- The amounts that are printed are those of the classified records. -/
theorem printsAmounts_of_classify (around : Surroundings) (a : Arguments) {bytes : List UInt8}
    {text : String} {records : List LedgerRecord} (decoded : Utf8.decode? bytes = some text)
    (read : LedgerRecord.ofText? text = some records) {amounts : List (String × UInt32 × Nat)}
    (found : (records.map fun r =>
      let amount := (classify (decimals around a records) a.reference r.transaction
        (((resultsOf records).get? r.transaction.hash).getD [])).effective
      (amount.token, amount.decimals, amount.units.toNat)) = amounts) :
    PrintsAmounts around a bytes amounts := by
  refine ⟨records.map fun r => classify (decimals around a records) a.reference r.transaction
    (((resultsOf records).get? r.transaction.hash).getD []), ?_, ?_⟩
  · rw [outcome_eq_printed around a decoded read, lines, List.map_map]
    rfl
  · rw [← found, List.map_map]
    rfl

/-- Options that have no effect.  The native token keeps its decimal places; the item is printed
as nothing at all if its collection is given none; and if a shared tier has some for the collection
then the item is printed with these. -/
theorem outcome_ignores_options :
    let alone := argumentsWith [("EGLD", 6), ("FARM-abc123-0a", 18)]
    let shared := argumentsWith [("FARM-abc123", 18), ("FARM-abc123-0a", 18)]
    let bytes := Utf8.encode transfersText.toList
    Call.ofPayload nativePayload = .ok (.transfer "EGLD" ⟨1000000, by decide⟩ none) ∧
      Call.ofPayload itemPayload =
        .ok (.itemTransfer itemPayment ⟨List.replicate 32 0, by decide⟩ none) ∧
      itemPayment.token = "FARM-abc123-0a" ∧
      PrintsAmounts (.alone 0) alone bytes [("EGLD", 18, 1000000), ("FARM-abc123-0a", 0, 0)] ∧
      PrintsAmounts (surroundingsWith "FARM-abc123" "6") shared bytes
        [("EGLD", 18, 1000000), ("FARM-abc123-0a", 6, 1)] := by
  intro alone shared bytes
  have decoded : Utf8.decode? bytes = some transfersText := Utf8.decode?_encode transfersText
  refine ⟨by decide +kernel, ofPayload_itemPayload, by decide +kernel, ?_, ?_⟩
  · exact printsAmounts_of_classify (.alone 0) alone decoded ofText?_transfersText
      (by decide +kernel)
  · exact printsAmounts_of_classify (surroundingsWith "FARM-abc123" "6") shared decoded
      ofText?_transfersText (by decide +kernel)

end Command

end ChainActivity
