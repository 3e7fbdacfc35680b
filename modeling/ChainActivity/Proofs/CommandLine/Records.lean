import ChainActivity.CommandLine.Basic
import ChainActivity.Proofs.Batch.Fetching
import ChainActivity.Proofs.Batch.Resolving
import ChainActivity.Proofs.Json.OneLine

/-!
# The lines of a file of records

The command prints one line for each record of a file, in order.  Results are kept by
the hashes of transactions: records of one hash are all classified with the results of
the last of them.

## Main definitions

* `LedgerRecord.IsLast` — the last record of a hash.
* `Command.tableOf`, `Command.decimals` — the decimal places that the command finds for the
  tokens of a file.

## Main statements

* `LedgerRecord.exists_isLast`, `LedgerRecord.IsLast.get?_resultsOf` — the results of the
  last record of a hash are kept.
* `ResultProvider.Knows.run_classifyResolving_eq_map` — a batch whose results come from one
  map and whose decimal places come through a cache.
* `Command.outcomeOf_eq_printed` — the command is not broken off, and what it prints.
* `Command.outcome_of_records` — the lines that are printed.
* `Command.outcome_ne_own_results` — a record that is classified without its results.

## Design notes

A transaction may come without a hash, which is then empty.  So all records without a
hash are records of one hash, and only the results of the last of them are looked at.

Decimal places are those that the cache of the run finds, and a shared tier may have some
from earlier runs.  What is stated here holds for any tier, so it names the table that the
run fills and does not say what is in it.
-/

namespace ChainActivity

/-! ### The last record of a hash -/

namespace LedgerRecord

/-- Whether a record is the last one whose transaction has a hash. -/
def IsLast (records : List LedgerRecord) (hash : String) (last : LedgerRecord) : Prop :=
  ∃ before after, records = before ++ last :: after ∧ last.transaction.hash = hash ∧
    ∀ s ∈ after, s.transaction.hash ≠ hash

variable {records : List LedgerRecord} {hash : String} {last : LedgerRecord}

namespace IsLast

theorem mem (isLast : IsLast records hash last) : last ∈ records := by
  obtain ⟨before, after, rfl, -, -⟩ := isLast
  exact List.mem_append_right before (List.mem_cons_self ..)

theorem hash_eq (isLast : IsLast records hash last) : last.transaction.hash = hash := by
  obtain ⟨before, after, -, same, -⟩ := isLast
  exact same

/-- What stands in front of the records does not matter. -/
theorem append_left (isLast : IsLast records hash last) (front : List LedgerRecord) :
    IsLast (front ++ records) hash last := by
  obtain ⟨before, after, rfl, same, others⟩ := isLast
  exact ⟨front ++ before, after, (List.append_assoc ..).symm, same, others⟩

/-- The results of the last record of a hash are kept. -/
theorem get?_resultsOf (isLast : IsLast records hash last) :
    (resultsOf records).get? hash = some last.results := by
  obtain ⟨before, after, rfl, rfl, others⟩ := isLast
  exact Keyed.get?_foldl_insert_append (fun r => r.transaction.hash) LedgerRecord.results before
    last others .empty

end IsLast

/-- If some record has a hash, then there is a last one. -/
theorem exists_isLast (present : ∃ r ∈ records, r.transaction.hash = hash) :
    ∃ last, IsLast records hash last := by
  induction records with
  | nil =>
    obtain ⟨r, member, -⟩ := present
    exact nomatch member
  | cons first rest ih =>
    by_cases again : ∃ r ∈ rest, r.transaction.hash = hash
    · obtain ⟨last, isLast⟩ := ih again
      exact ⟨last, isLast.append_left [first]⟩
    · have others : ∀ s ∈ rest, s.transaction.hash ≠ hash :=
        fun s member same => again ⟨s, member, same⟩
      obtain ⟨r, member, same⟩ := present
      rcases List.mem_cons.mp member with rfl | behind
      · exact ⟨r, [], rest, rfl, same, others⟩
      · exact absurd same (others r behind)

end LedgerRecord

/-! ### Results from one map -/

/-- A provider of results that are known beforehand knows them. -/
theorem ResultProvider.knows_ofKeyed (results : Keyed (List ContractResult)) :
    (ResultProvider.ofKeyed results).Knows results.get? :=
  fun _ => ⟨results.get?, rfl, fun _ _ => rfl⟩

/-- Classifying looks the decimal places of all tokens up first.  This holds for any
durable tier and whatever either tier has. -/
theorem ResultProvider.Knows.run_classifyResolving_eq_map {σ : Type} {provider : ResultProvider}
    {byHash : ResultsByHash} (knows : provider.Knows byHash) (config : BatchConfig)
    (cache : CacheConfig) (account : Option String) (txs : List Transaction)
    (backend : Backend σ) (producer : Producer String SourceReply) (s : Session String σ) :
    let tokens := batchTokens txs (knownResults byHash txs)
    let filled := ((Directory.tableFor cache tokens).run backend producer s).1
    ((classifyResolving config provider cache account txs).run backend producer s).1 =
      filled.map fun table =>
        txs.map fun tx => classify table.find? account tx ((byHash tx.hash).getD []) := by
  rw [classifyResolving_run, knows.fetchResults_eq]
  simp only [classifyEach_knownResults]

/-! ### Files -/

namespace Command

/-- The table of decimal places that the command fills for the tokens of a file. -/
def tableOf (around : Surroundings) (a : Arguments) (records : List LedgerRecord) :
    Ending DecimalsTable :=
  let txs := records.map LedgerRecord.transaction
  let tokens := batchTokens txs (knownResults (resultsOf records).get? txs)
  let tier := around.tier a
  ((Directory.tableFor .standard tokens).run tier.backend
    ⟨(DecimalsTable.ofList a.decimals).source, fun _ => 0⟩
    ⟨around.now, ⟨.empty, tier.state⟩, []⟩).1

/-- The decimal places that the command finds. -/
def decimals (around : Surroundings) (a : Arguments) (records : List LedgerRecord) : Decimals :=
  match tableOf around a records with
  | .value table => table.find?
  | .broken => fun _ => none

/-- The line of a transaction with its results. -/
def line (known : Decimals) (a : Arguments) (tx : Transaction) (results : List ContractResult) :
    String :=
  (classify known a.reference tx results).toText

theorem newline_not_mem_line (known : Decimals) (a : Arguments) (tx : Transaction)
    (results : List ContractResult) : '\n' ∉ (line known a tx results).toList :=
  Json.newline_not_mem_toText _

variable (around : Surroundings) (a : Arguments)

/-- A table is always filled: a shared tier completes its calls. -/
theorem exists_tableOf (records : List LedgerRecord) :
    ∃ table, tableOf around a records = .value table :=
  Directory.exists_run_tableFor ((around.tier a).completes _ _)

/-- The lines for the records of a file. -/
def lines (records : List LedgerRecord) : List String :=
  records.map fun r => line (decimals around a records) a r.transaction
    (((resultsOf records).get? r.transaction.hash).getD [])

/-- Each transaction of a file is classified with the results that are kept for its hash, and
printed. -/
theorem outcomeOf_eq_printed (records : List LedgerRecord) :
    outcomeOf around a records = .printed (lines around a records) := by
  obtain ⟨table, filled⟩ := exists_tableOf around a records
  have known : decimals around a records = table.find? := by rw [decimals, filled]
  have classified : classifyRecords ⟨a.chunkSize, a.concurrency⟩ a.reference (.ofList a.decimals)
      (around.tier a) around.now records =
      (tableOf around a records).map fun t => (records.map LedgerRecord.transaction).map fun tx =>
        classify t.find? a.reference tx (((resultsOf records).get? tx.hash).getD []) :=
    (ResultProvider.knows_ofKeyed (resultsOf records)).run_classifyResolving_eq_map ..
  rw [filled] at classified
  rw [outcomeOf, classified, lines, known]
  simp only [Ending.map_value, List.map_map]
  rfl

theorem getElem?_lines (before : List LedgerRecord) (r : LedgerRecord)
    (after : List LedgerRecord) {last : LedgerRecord}
    (isLast : LedgerRecord.IsLast (r :: after) r.transaction.hash last) :
    (lines around a (before ++ r :: after))[before.length]? =
      some (line (decimals around a (before ++ r :: after)) a r.transaction last.results) := by
  rw [lines, List.getElem?_map, List.getElem?_append_right (Nat.le_refl _), Nat.sub_self,
    List.getElem?_cons_zero, Option.map_some, (isLast.append_left before).get?_resultsOf]
  rfl

/-- A file of records is printed. -/
theorem outcome_eq_printed {bytes : List UInt8} {text : String} {records : List LedgerRecord}
    (decoded : Utf8.decode? bytes = some text) (read : LedgerRecord.ofText? text = some records) :
    outcome around a (some bytes) = .printed (lines around a records) := by
  rw [outcome, Option.bind_some, decoded]
  dsimp only
  rw [read]
  exact outcomeOf_eq_printed around a records

/-- A file of records is printed in as many lines, in order, whichever shared tier is reached and
whatever it has.  The line of a record is its transaction, classified with the decimal places that
the run has found and with the results of the last record of the same hash.  These are its own
results unless other results come with the same hash further behind. -/
theorem outcome_of_records {bytes : List UInt8} {text : String} {records : List LedgerRecord}
    (decoded : Utf8.decode? bytes = some text) (read : LedgerRecord.ofText? text = some records) :
    ∃ printed, outcome around a (some bytes) = .printed printed ∧
      printed.length = records.length ∧
      (∀ text ∈ printed, '\n' ∉ text.toList) ∧
      ∀ before r after, records = before ++ r :: after →
        (∃ last, LedgerRecord.IsLast (r :: after) r.transaction.hash last ∧
          printed[before.length]? =
            some (line (decimals around a records) a r.transaction last.results)) ∧
        ((∀ s ∈ after, s.transaction.hash = r.transaction.hash → s.results = r.results) →
          printed[before.length]? =
            some (line (decimals around a records) a r.transaction r.results)) := by
  refine ⟨lines around a records, outcome_eq_printed around a decoded read, ?_, ?_, ?_⟩
  · rw [lines, List.length_map]
  · rw [lines]
    exact List.forall_mem_map.mpr fun r _ => newline_not_mem_line _ a _ _
  · rintro before r after rfl
    obtain ⟨last, isLast⟩ :=
      LedgerRecord.exists_isLast ⟨r, List.mem_cons_self (a := r) (l := after), rfl⟩
    have printed := getElem?_lines around a before r after isLast
    refine ⟨⟨last, isLast, printed⟩, fun alike => ?_⟩
    have own : last.results = r.results := by
      rcases List.mem_cons.mp isLast.mem with rfl | behind
      · rfl
      · exact alike last behind isLast.hash_eq
    rw [← own]
    exact printed

/-- A command that prints without a shared tier. -/
def plainArguments : Arguments := ⟨"input.json", none, [], none, .info, 100, 4⟩

/-- A withdrawal. -/
def withdrawal : Transaction := { hash := "aa", sender := "a", data := some "d2l0aGRyYXc=" }

/-- A result that pays the account `a`. -/
def payment (units : String) : ContractResult := { receiver := "a", value := units }

/-- Two withdrawals of one hash, which are paid one unit and two units.  Both are printed with
two. -/
theorem outcome_of_repeated_hash :
    let text := "[\x7b\"transaction\":\x7b\"txHash\":\"aa\",\"sender\":\"a\"," ++
      "\"data\":\"d2l0aGRyYXc=\"\x7d,\"results\":[\x7b\"receiver\":\"a\",\"value\":\"1\"\x7d]\x7d," ++
      "\x7b\"transaction\":\x7b\"txHash\":\"aa\",\"sender\":\"a\"," ++
      "\"data\":\"d2l0aGRyYXc=\"\x7d,\"results\":[\x7b\"receiver\":\"a\",\"value\":\"2\"\x7d]\x7d]"
    let printed := "\x7b\"txHash\":\"aa\",\"sender\":\"a\",\"receiver\":\"\",\"value\":\"\"," ++
      "\"data\":\"d2l0aGRyYXc=\",\"nonce\":0,\"gasLimit\":0,\"gasPrice\":0,\"gasUsed\":0," ++
      "\"fee\":\"\",\"timestamp\":0,\"senderShard\":0,\"receiverShard\":0,\"tokens\":[]," ++
      "\"esdtValues\":[],\"status\":\"\",\"isScCall\":false,\"type\":\"Withdraw\"," ++
      "\"function\":\"withdraw\",\"effectiveValue\":\x7b\"raw\":\"2\",\"decimals\":18," ++
      "\"value\":2e-18,\"token\":\"EGLD\"\x7d,\"otherValue\":\x7b\"raw\":\"0\",\"decimals\":0," ++
      "\"value\":0.0,\"token\":\"\"\x7d\x7d"
    outcome (.alone 0) plainArguments (some (Utf8.encode text.toList)) =
      .printed [printed, printed] := by
  intro text printed
  let first : LedgerRecord := ⟨withdrawal, [payment "1"]⟩
  let second : LedgerRecord := ⟨withdrawal, [payment "2"]⟩
  have read : LedgerRecord.ofText? text = some [first, second] := by decide +kernel
  obtain ⟨ls, done, count, -, each⟩ :=
    outcome_of_records (.alone 0) plainArguments (Utf8.decode?_encode text) read
  obtain ⟨⟨last, isLast, line₁⟩, -⟩ := each [] first [second] rfl
  have line₂ := (each [first] second [] rfl).2 nofun
  have results : some last.results = some second.results := isLast.get?_resultsOf.symm
  rw [Option.some.inj results] at line₁
  have rendered : line (decimals (.alone 0) plainArguments [first, second]) plainArguments
      withdrawal second.results = printed := by
    -- compared as lists of characters, which are quicker to evaluate than texts
    apply String.toList_inj.mp
    simp only [printed, String.toList_append]
    rw [line, ClassifiedTransaction.toText, Json.toText, String.toList_ofList]
    decide +kernel
  obtain ⟨x, y, rfl⟩ := List.length_eq_two.mp count
  obtain rfl := Option.some.inj line₁
  obtain rfl := Option.some.inj line₂
  rw [done]
  exact congrArg Outcome.printed (by rw [← rendered])

/-- A withdrawal that is paid one unit, and another transaction; neither has a hash.  The
withdrawal is printed as if it had no result. -/
theorem outcome_ne_own_results :
    let text := "[\x7b\"transaction\":\x7b\"sender\":\"a\",\"data\":\"d2l0aGRyYXc=\"\x7d," ++
      "\"results\":[\x7b\"receiver\":\"a\",\"value\":\"1\"\x7d]\x7d,\x7b\"transaction\":\x7b\x7d\x7d]"
    let records : List LedgerRecord := [⟨{ withdrawal with hash := "" }, [payment "1"]⟩, ⟨{}, []⟩]
    LedgerRecord.ofText? text = some records ∧
      outcome (.alone 0) plainArguments (some (Utf8.encode text.toList)) ≠
        .printed (records.map fun r =>
          line (decimals (.alone 0) plainArguments records) plainArguments r.transaction
            r.results) := by
  intro text records
  have read : LedgerRecord.ofText? text = some records := by decide +kernel
  refine ⟨read, fun printed => ?_⟩
  rw [outcome_eq_printed (.alone 0) plainArguments (Utf8.decode?_encode text) read,
    Outcome.printed.injEq, lines] at printed
  have first : line (decimals (.alone 0) plainArguments records) plainArguments
      { withdrawal with hash := "" } [] =
      line (decimals (.alone 0) plainArguments records) plainArguments
        { withdrawal with hash := "" } [payment "1"] := (List.cons.inj printed).1
  have rendered := String.ofList_injective first
  exact absurd rendered (by decide +kernel)

end Command

end ChainActivity
