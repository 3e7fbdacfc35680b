import ChainActivity.Batch.Basic
import ChainActivity.CommandLine.Arguments
import ChainActivity.Ledger.Document

/-!
# The command

The command reads a file of records, each a transaction with its results, and prints
one classified transaction a line.

## Main definitions

* `LedgerRecord` — a transaction with its results, and `LedgerRecord.ofText?`.
* `SharedTier`, `Surroundings` — a durable tier that outlives the command, and where to find it.
* `classifyRecords` — the classified transactions of a file.
* `Outcome`, `Command.outcome` — what the command does with a file.
* `Command.usage` — the text of the help.

## Design notes

A shared cache may be given by its address.  Whether it can be reached is a matter of the
surroundings, and so is what it keeps; a command that reaches none has a cache of its own.
-/

namespace ChainActivity

/-- A transaction with its results. -/
structure LedgerRecord where
  transaction : Transaction
  results : List ContractResult
  deriving DecidableEq, Repr

namespace LedgerRecord

/-- The record that a document is.  The transaction must be there. -/
def ofJson? (v : Json) : Option LedgerRecord := do
  let r ← v.record? ["transaction", "results"]
  let transaction ← r.need "transaction" Transaction.ofJson?
  let results ← r.get "results" (Json.list? ContractResult.ofJson?) []
  some ⟨transaction, results⟩

/-- The records of a text. -/
def ofText? (text : String) : Option (List LedgerRecord) :=
  (Json.ofText? text).bind (Json.list? ofJson?)

end LedgerRecord

/-- The results of records by the hash of their transaction; a later record replaces an
earlier one of the same hash. -/
def resultsOf (records : List LedgerRecord) : Keyed (List ContractResult) :=
  records.foldl (fun m r => m.insert r.transaction.hash r.results) .empty

/-! ### Surroundings -/

/-- A durable tier that outlives the command, with what it keeps.  It breaks no call off. -/
structure SharedTier where
  {State : Type}
  backend : Backend State
  state : State
  completes : ∀ lifetime last, backend.Completes lifetime last

/-- No shared tier. -/
def SharedTier.absent : SharedTier where
  backend := (.absent : Backend Unit)
  state := ()
  completes := Backend.completes_absent

/-- What the command finds around it. -/
structure Surroundings where
  now : Instant
  /-- The shared tier behind an address, if it can be reached. -/
  connect : String → Option SharedTier

/-- Surroundings in which no shared tier can be reached. -/
def Surroundings.alone (now : Instant) : Surroundings := ⟨now, fun _ => none⟩

/-- The shared tier that a command uses. -/
def Surroundings.tier (around : Surroundings) (a : Arguments) : SharedTier :=
  (a.redisUrl.bind around.connect).getD .absent

/-! ### Files -/

/-- The classified transactions of records, in order.  Decimal places come from a table,
through a cache whose near tier starts empty. -/
def classifyRecords (config : BatchConfig) (account : Option String) (table : DecimalsTable)
    (tier : SharedTier) (now : Instant) (records : List LedgerRecord) :
    Ending (List ClassifiedTransaction) :=
  let provider := ResultProvider.ofKeyed (resultsOf records)
  let program :=
    classifyResolving config provider .standard account (records.map LedgerRecord.transaction)
  let start : Session String tier.State := ⟨now, ⟨.empty, tier.state⟩, []⟩
  (program.run tier.backend ⟨table.source, fun _ => 0⟩ start).1

/-- What the command does. -/
inductive Outcome where
  /-- It prints lines. -/
  | printed (lines : List String)
  /-- The file cannot be read as text. -/
  | unreadable
  /-- The text of the file is no list of records. -/
  | malformed
  /-- It is broken off. -/
  | broken
  deriving DecidableEq, Repr

namespace Command

/-- What the command does with the records of a file. -/
def outcomeOf (around : Surroundings) (a : Arguments) (records : List LedgerRecord) : Outcome :=
  match classifyRecords ⟨a.chunkSize, a.concurrency⟩ a.reference (.ofList a.decimals)
      (around.tier a) around.now records with
  | .value classified => .printed (classified.map ClassifiedTransaction.toText)
  | .broken => .broken

/-- What the command does with the bytes of a file, if there is one. -/
def outcome (around : Surroundings) (a : Arguments) (bytes : Option (List UInt8)) : Outcome :=
  match bytes.bind Utf8.decode? with
  | none => .unreadable
  | some text =>
    match LedgerRecord.ofText? text with
    | none => .malformed
    | some records => outcomeOf around a records

/-- The text of the help. -/
def usage : List String :=
  ["Classify ledger transactions",
    "",
    "Usage: txnscope-classify [OPTIONS] --input <INPUT>",
    "",
    "Options:",
    "      --input <INPUT>              JSON array of records [env: TXNSCOPE_INPUT]",
    "      --reference <REFERENCE>      Viewpoint address [env: TXNSCOPE_REFERENCE]",
    "      --decimals <DECIMALS>        Decimal places of a token as TOKEN=N, repeatable",
    "      --redis-url <REDIS_URL>      Shared cache [env: TXNSCOPE_REDIS_URL]",
    "      --log-level <LOG_LEVEL>      [env: TXNSCOPE_LOG_LEVEL] [default: info]",
    "      --chunk-size <CHUNK_SIZE>    [default: 100]",
    "      --concurrency <CONCURRENCY>  [default: 4]",
    "  -h, --help                       Print help"]

end Command

end ChainActivity
