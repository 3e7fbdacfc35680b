import ChainActivity.Batch.Gather
import ChainActivity.Classification.Basic
import ChainActivity.Token.Directory

/-!
# Batches

Many transactions are classified at once.  Their results are requested in chunks, and
the decimal places of all tokens that appear are looked up before any of them is
classified.

## Main definitions

* `BatchConfig` — the size of a chunk, and how many chunks are requested at a time.
* `ResultProvider` — answers a request for the results of transactions.
* `fetchResults` — the results of each transaction.
* `fetchTrace` — what can be seen of the requests while they are under way.
* `classifyAll` — classifies with decimal places that are known.
* `classifyResolving` — classifies with decimal places from a directory.

## Design notes

A chunk whose request fails is classified without results.  What is fetched does not
depend on how many chunks are requested at a time; that is a matter of the run, see
`ChainActivity.Batch.Gather`.
-/

namespace ChainActivity

/-- How the results of a batch are requested. -/
structure BatchConfig where
  chunkSize : Nat := 100
  concurrency : Nat := 4
  deriving DecidableEq, Repr

/-- The results by the hash of their transaction. -/
abbrev ResultsByHash := String → Option (List ContractResult)

/-- Answers a request for the results of transactions, given by their hashes; or
fails. -/
abbrev ResultProvider := List String → Option ResultsByHash

/-- Results that are known beforehand, as a provider. -/
def ResultProvider.ofKeyed (results : Keyed (List ContractResult)) : ResultProvider :=
  fun _ => some results.get?

/-- The results of the transactions of one chunk. -/
def chunkResults (provider : ResultProvider) (hashes : List String) :
    List (List ContractResult) :=
  match provider hashes with
  | some byHash => hashes.map fun hash => (byHash hash).getD []
  | none => hashes.map fun _ => []

/-- The requests for the results of a batch. -/
def hashChunks (config : BatchConfig) (txs : List Transaction) : List (List String) :=
  chunks config.chunkSize (txs.map Transaction.hash)

/-- How many requests may be under way at a time. -/
def BatchConfig.limit (config : BatchConfig) : Nat :=
  max config.concurrency 1

/-- The results of each transaction of a batch. -/
def fetchResults (config : BatchConfig) (provider : ResultProvider) (txs : List Transaction) :
    List (List ContractResult) :=
  (hashChunks config txs).flatMap (chunkResults provider)

/-- What can be seen of the requests of a batch. -/
structure FetchTrace where
  /-- The hashes of each request, in the order in which the requests were sent. -/
  requests : List (List String)
  /-- The largest number of requests that were unanswered at a time. -/
  peak : Nat
  /-- The time that all requests took together. -/
  elapsed : Nat
  results : List (List ContractResult)
  deriving Repr

/-- The requests of a batch, each of which takes the same time.  A request that takes
no time is answered before the next one is sent. -/
def fetchTrace (config : BatchConfig) (provider : ResultProvider) (duration : Nat)
    (txs : List Transaction) : FetchTrace :=
  let width := if duration = 0 then 1 else config.limit
  let start : Gather (List String) (List (List ContractResult)) :=
    .start (hashChunks config txs)
  let rounds := Gather.rounds width (chunkResults provider) (hashChunks config txs)
  let final := start.run config.limit rounds.flatten
  { requests := final.sent
    peak := start.peak config.limit rounds.flatten
    elapsed := rounds.length * duration
    results := final.delivered.flatten }

/-- Classifies transactions with their results. -/
def classifyEach (decimals : Decimals) (account : Option String) (txs : List Transaction)
    (results : List (List ContractResult)) : List ClassifiedTransaction :=
  (txs.zip results).map fun (tx, rs) => classify decimals account tx rs

/-- Classifies a batch with decimal places that are known. -/
def classifyAll (config : BatchConfig) (provider : ResultProvider) (decimals : Decimals)
    (account : Option String) (txs : List Transaction) : List ClassifiedTransaction :=
  classifyEach decimals account txs (fetchResults config provider txs)

/-- Puts a text at its place among sorted texts, unless it is there. -/
def insertSorted (text : String) : List String → List String
  | [] => [text]
  | t :: rest =>
    if text = t then t :: rest
    else if text < t then text :: t :: rest
    else t :: insertSorted text rest

/-- Texts in order, without repetitions. -/
def sortedTexts (texts : List String) : List String :=
  texts.foldl (fun sorted text => insertSorted text sorted) []

/-- The tokens that a batch names, in order. -/
def batchTokens (txs : List Transaction) (results : List (List ContractResult)) :
    List String :=
  sortedTexts ((txs.zip results).flatMap fun (tx, rs) => referencedTokens tx rs)

/-- Classifies transactions with their results and with decimal places from a
directory. -/
def classifyEachResolving (cache : CacheConfig) (account : Option String)
    (txs : List Transaction) (results : List (List ContractResult)) :
    Program String SourceReply (Ending (List ClassifiedTransaction)) := do
  let table ← Directory.tableFor cache (batchTokens txs results)
  pure (table.map fun t => classifyEach t.find? account txs results)

/-- Classifies a batch with decimal places from a directory. -/
def classifyResolving (config : BatchConfig) (provider : ResultProvider) (cache : CacheConfig)
    (account : Option String) (txs : List Transaction) :
    Program String SourceReply (Ending (List ClassifiedTransaction)) :=
  classifyEachResolving cache account txs (fetchResults config provider txs)

end ChainActivity
