import ChainActivity.Batch.Basic
import ChainActivity.Proofs.Classification.Decimals
import ChainActivity.Proofs.Token.Directory

/-!
# Batches with decimal places from a directory

A batch that looks its decimal places up in a directory over a table is classified as
with the table itself.

## Main definitions

* `DecimalsTable.IsByCollection` — a table whose keys are collections.

## Main statements

* `mem_sortedTexts`, `mem_batchTokens` — every token that is named is looked up.
* `DecimalsTable.known?_source` — what a table as a source knows about a collection.
* `run_classifyResolving` — classifying through a directory and with the table agree, where the
  first is not broken off.
* `not_classified_of_endless` — a batch that is broken off.

## Design notes

A directory asks for collections, a table is asked for identifiers first.  The two
answer alike only if no item has decimal places of its own, that is, if every key of
the table is a collection; and if the table agrees with the directory about the native
token, which the directory never asks for.
-/

namespace ChainActivity

/-! ### The tokens of a batch -/

theorem mem_insertSorted {text t : String} {sorted : List String} :
    t ∈ insertSorted text sorted ↔ t = text ∨ t ∈ sorted := by
  induction sorted with
  | nil => rw [insertSorted, List.mem_singleton, List.mem_nil_iff, or_false]
  | cons first rest ih =>
    rw [insertSorted]
    split
    · next same =>
      subst same
      simp
    · split
      · rw [List.mem_cons]
      · rw [List.mem_cons, List.mem_cons, ih, or_left_comm]

/-- Sorting loses no text and adds none. -/
theorem mem_sortedTexts {t : String} {texts : List String} : t ∈ sortedTexts texts ↔ t ∈ texts := by
  have growing : ∀ sorted : List String,
      t ∈ texts.foldl (fun sorted text => insertSorted text sorted) sorted ↔
        t ∈ texts ∨ t ∈ sorted := by
    induction texts with
    | nil => simp
    | cons text rest ih =>
      intro sorted
      rw [List.foldl_cons, ih, mem_insertSorted, List.mem_cons, or_left_comm, or_assoc]
  rw [sortedTexts, growing []]
  simp

/-- Every token that a transaction of the batch names, or one of its results, is looked
up. -/
theorem mem_batchTokens {txs : List Transaction} {results : List (List ContractResult)}
    {tx : Transaction} {rs : List ContractResult} {token : String}
    (member : (tx, rs) ∈ txs.zip results) (named : token ∈ referencedTokens tx rs) :
    token ∈ batchTokens txs results :=
  mem_sortedTexts.mpr (List.mem_flatMap.mpr ⟨(tx, rs), member, named⟩)

/-- The meanings of transactions depend on the tokens of their batch only. -/
theorem classifyEach_congr {d e : Decimals} {txs : List Transaction}
    {results : List (List ContractResult)}
    (agree : ∀ token ∈ batchTokens txs results, d token = e token) (account : Option String) :
    classifyEach d account txs results = classifyEach e account txs results := by
  rw [classifyEach, classifyEach]
  apply List.map_congr_left
  rintro ⟨tx, rs⟩ member
  exact classify_congr (fun token named => agree token (mem_batchTokens member named)) account

/-! ### Tables as sources -/

namespace DecimalsTable

/-- Whether the keys of a table are collections, and the native token has the decimal
places that everybody knows. -/
structure IsByCollection (table : DecimalsTable) : Prop where
  collection_key : ∀ key, (table.get? key).isSome → Token.collection key = key
  native : table.get? Token.native = some Token.nativeDecimals

namespace IsByCollection

variable {table : DecimalsTable}

/-- The table that knows the native token only. -/
theorem nativeOnly : DecimalsTable.nativeOnly.IsByCollection where
  collection_key key present := by
    by_cases same : Token.native = key
    · subst same
      exact Token.collection_eq_native_iff.mpr rfl
    · rw [DecimalsTable.nativeOnly, Keyed.get?_insert_of_ne _ same] at present
      exact absurd present Bool.false_ne_true
  native := Keyed.get?_insert_self _ _ _

/-- Another collection may be added. -/
theorem insert (keys : table.IsByCollection) {key : String} (own : Token.collection key = key)
    (foreign : key ≠ Token.native) (places : UInt32) :
    IsByCollection (Keyed.insert table key places) where
  collection_key other present := by
    by_cases same : key = other
    · subst same
      exact own
    · rw [Keyed.get?_insert_of_ne _ same] at present
      exact keys.collection_key other present
  native := by rw [Keyed.get?_insert_of_ne _ foreign, keys.native]

/-- A token has the decimal places of its collection. -/
theorem find?_eq (keys : table.IsByCollection) (token : String) :
    table.find? token = table.get? (Token.collection token) :=
  find?_eq_get? (keys.collection_key token)

/-- What the table knows as a source is what it holds. -/
theorem known?_source (keys : table.IsByCollection) (token : String) :
    Directory.known? table.source (Token.collection token) = table.find? token := by
  rw [keys.find?_eq]
  by_cases native : Token.collection token = Token.native
  · rw [native, Directory.known?_native, keys.native]
  · rw [Directory.known?, if_neg native, source, keys.find?_eq, Token.collection_collection]
    cases table.get? (Token.collection token) <;> rfl

end IsByCollection

end DecimalsTable

/-! ### Batches -/

/-- Classifying through a directory fills a table first, and is broken off if that is. -/
theorem classifyResolving_run {σ : Type} (config : BatchConfig) (provider : ResultProvider)
    (cache : CacheConfig) (account : Option String) (txs : List Transaction) (backend : Backend σ)
    (producer : Producer String SourceReply) (s : Session String σ) :
    let results := fetchResults config provider txs
    let filled := (Directory.tableFor cache (batchTokens txs results)).run backend producer s
    (classifyResolving config provider cache account txs).run backend producer s =
      (filled.1.map fun table => classifyEach table.find? account txs results, filled.2) := by
  change (Program.bind (Directory.tableFor cache _) _).run _ _ _ = _
  rw [Program.run_bind]
  rfl

/-- Over a durable tier in memory whose clock cannot name the ends of lifetimes a batch is broken
off that names a token of the table. -/
theorem run_classifyResolving_of_limit_le (config : BatchConfig) (provider : ResultProvider)
    {cache : CacheConfig} {now : Instant} {table : DecimalsTable} (keys : table.IsByCollection)
    (duration : String → Nat) (account : Option String) {txs : List Transaction}
    (beyond : Instant.limit ≤ now + cache.lifetime .tokenDecimals)
    (known : ∃ token ∈ batchTokens txs (fetchResults config provider txs),
      token ≠ Token.native ∧ (table.find? token).isSome = true) :
    ((classifyResolving config provider cache account txs).run (.ofFailures (some fun _ => none))
      ⟨table.source, duration⟩ (.fresh now)).1 = .broken := by
  obtain ⟨token, listed, foreign, present⟩ := known
  obtain ⟨places, entry⟩ := Option.isSome_iff_exists.mp present
  have answered : table.source (Token.collection token) = .ok places := by
    rw [DecimalsTable.source, keys.find?_eq, Token.collection_collection, ← keys.find?_eq, entry]
  rw [classifyResolving_run, Directory.run_tableFor_of_limit_le beyond duration
    ⟨token, listed, foreign, places, answered⟩]
  rfl

/-- Classifying a batch with the decimal places of a directory over a table, whose cache
is empty at first, is classifying it with the table.  This holds for every policy of
the cache, without durable tier or with one in memory, whichever of its calls fail and
however long the source takes, unless the batch is broken off.

It is not without a durable tier, or while the clock can name the ends of lifetimes.  It is
if the clock cannot name them at its start, no call of the tier fails, and some token that
is named has decimal places in the table. -/
theorem run_classifyResolving (config : BatchConfig) (provider : ResultProvider)
    (cache : CacheConfig) (failures : Option (Nat → Option CacheError)) (now : Instant)
    {table : DecimalsTable} (keys : table.IsByCollection) (duration : String → Nat)
    (account : Option String) (txs : List Transaction) :
    let ran := (classifyResolving config provider cache account txs).run (.ofFailures failures)
      ⟨table.source, duration⟩ (.fresh now)
    (ran.1 ≠ .broken → ran.1 = .value (classifyAll config provider table.find? account txs)) ∧
    (failures = none ∨ ran.2.now + cache.lifetime .tokenDecimals < Instant.limit →
      ran.1 ≠ .broken) ∧
    (failures = some (fun _ => none) → Instant.limit ≤ now + cache.lifetime .tokenDecimals →
      (∃ token ∈ batchTokens txs (fetchResults config provider txs), token ≠ Token.native ∧
        (table.find? token).isSome = true) → ran.1 = .broken) := by
  intro ran
  have split : ran = _ := classifyResolving_run config provider cache account txs
    (.ofFailures failures) ⟨table.source, duration⟩ (.fresh now)
  refine ⟨fun returned => ?_, fun namable => ?_, ?_⟩
  · rcases filled : ((Directory.tableFor cache (batchTokens txs (fetchResults config provider
      txs))).run (.ofFailures failures) ⟨table.source, duration⟩ (.fresh now)).1 with resolved | _
    · rw [split, filled]
      refine congrArg Ending.value (classifyEach_congr (fun token listed => ?_) account)
      exact (Directory.find?_tableFor filled listed).trans (keys.known?_source token)
    · rw [split, filled] at returned
      exact absurd rfl returned
  · rw [split] at namable ⊢
    obtain ⟨resolved, filled⟩ :=
      Directory.exists_run_tableFor (Backend.completes_ofFailures namable)
    rw [filled]
    nofun
  · rintro rfl beyond known
    exact run_classifyResolving_of_limit_le config provider keys duration account beyond known

/-- A swap of a token that the table knows, whose result moves another one.  The cached decimal
places expire at once. -/
theorem run_classifyResolving_of_one_swap :
    let table : DecimalsTable :=
      (DecimalsTable.nativeOnly.insert "USDC-c76f1f" 6).insert "UTK-2f80e9" 3
    let tx : Transaction :=
      { hash := "aa", sender := "alice",
        data := some ("RVNEVFRyYW5zZmVyQDU1NTM0NDQzMmQ2MzM3MzY2NjMxNjZAMDVhYUA3Mzc3NjE3MDU0NmY2Yj" ++
          "Y1NmU3MzQ2Njk3ODY1NjQ0OTZlNzA3NTc0") }
    let bought : ContractResult :=
      { receiver := "alice", data := some "RVNEVFRyYW5zZmVyQDU1NTQ0YjJkMzI2NjM4MzA2NTM5QDA3" }
    let provider := ResultProvider.ofKeyed (Keyed.empty.insert "aa" [bought])
    let cache := CacheConfig.plain.withPolicy .tokenDecimals ⟨0, true⟩
    ∃ classified, ((classifyResolving {} provider cache none [tx]).run
        (.ofFailures (some fun _ => none)) ⟨table.source, fun _ => Duration.milliseconds 250⟩
        (.fresh 0)).1 = .value classified ∧
      classified = classifyAll {} provider table.find? none [tx] ∧
      (classified.flatMap fun c => [c.effective, c.other]).map
          (fun amount => (amount.token, amount.decimals, amount.units.toNat)) =
        [("USDC-c76f1f", 6, 1450), ("UTK-2f80e9", 3, 7)] := by
  intro table tx bought provider cache
  have keys : table.IsByCollection :=
    (DecimalsTable.IsByCollection.nativeOnly.insert (by decide) (by decide) 6).insert (by decide)
      (by decide) 3
  obtain ⟨agrees, returns, -⟩ := run_classifyResolving {} provider cache (some fun _ => none) 0 keys
    (fun _ => Duration.milliseconds 250) none [tx]
  exact ⟨_, agrees (returns (.inr (by decide +kernel))), rfl, by decide +kernel⟩

/-- A transfer of a token that the table knows, through a cache whose values never expire: over a
durable tier in memory it is not classified. -/
theorem not_classified_of_endless :
    let table : DecimalsTable := DecimalsTable.nativeOnly.insert "USDC-c76f1f" 6
    let tx : Transaction :=
      { data := some "RVNEVFRyYW5zZmVyQDU1NTM0NDQzMmQ2MzM3MzY2NjMxNjZAMDVhYQ==" }
    let cache := CacheConfig.plain.withPolicy .tokenDecimals (.ofSeconds 18446744073709551615 true)
    table.IsByCollection ∧
      ((classifyResolving {} (fun _ => none) cache none [tx]).run (.ofFailures (some fun _ => none))
          ⟨table.source, fun _ => 0⟩ (.fresh 0)).1 ≠
        .value (classifyAll {} (fun _ => none) table.find? none [tx]) := by
  intro table tx cache
  have keys : table.IsByCollection :=
    DecimalsTable.IsByCollection.nativeOnly.insert (by decide) (by decide) 6
  have named : "USDC-c76f1f" ∈ batchTokens [tx] (fetchResults {} (fun _ => none) [tx]) := by
    decide +kernel
  have beyond : Instant.limit ≤ (0 : Instant) + cache.lifetime .tokenDecimals := by decide +kernel
  refine ⟨keys, fun classified => ?_⟩
  have ended := run_classifyResolving_of_limit_le {} (fun _ => none) keys (fun _ => 0) none beyond
    ⟨"USDC-c76f1f", named, by decide, by decide +kernel⟩
  exact nomatch ended.symm.trans classified

end ChainActivity
