import ChainActivity.Batch.Basic
import ChainActivity.Proofs.Batch.Gathering

/-!
# What is fetched for a batch

The results of a batch are requested in chunks, and the answers may arrive in any order.
Every transaction gets the results that the answer to the request of its own chunk has
for its hash.

## Main definitions

* `resultsIn` — the results of one transaction, from the outcome of a request.
* `FetchRun` — a run of the requests of a batch, each of which has an outcome of its own.
* `Fetched` — what such a run has sent and delivered at its end.
* `ResultProvider.Knows` — a provider that never fails and answers from one map.

## Main statements

* `getElem?_chunks`, `flatten_map_chunks` — where the members of a list stand in its
  chunks.
* `FetchRun.fetched` — at its end a run has fetched what it should.
* `fetched_in_order` — what is fetched in every run, and what is classified then.

## Design notes

Outcomes are given by the number of a request and not by its hashes: two chunks of equal
hashes may be answered differently.  A provider that is a function of the hashes is the
special case in which they are not.
-/

namespace ChainActivity

/-! ### Chunks -/

section Chunks

variable {α β : Type} {size fuel : Nat} {xs : List α}

theorem getElem?_chunksFuel (positive : 0 < size) (enough : xs.length ≤ fuel) (k : Nat) :
    (chunksFuel size fuel xs)[k]? =
      if k * size < xs.length then some ((xs.drop (k * size)).take size) else none := by
  induction fuel generalizing xs k with
  | zero =>
    obtain rfl := List.length_eq_zero_iff.mp (Nat.le_zero.mp enough)
    simp [chunksFuel]
  | succ n ih =>
    cases xs with
    | nil => simp [chunksFuel]
    | cons x xs =>
      cases k with
      | zero => simp [chunksFuel]
      | succ k =>
        have shorter : ((x :: xs).drop size).length ≤ n := by
          simp only [List.length_drop, List.length_cons] at enough ⊢
          omega
        have next : (k + 1) * size = size + k * size := by rw [Nat.succ_mul, Nat.add_comm]
        have inside : k * size < ((x :: xs).drop size).length ↔
            (k + 1) * size < (x :: xs).length := by
          rw [List.length_drop, next]
          omega
        rw [chunksFuel, List.getElem?_cons_succ, ih shorter, List.drop_drop, ← next]
        simp only [inside]

/-- The chunk of a number has the members from that multiple of the size on. -/
theorem getElem?_chunks (size : Nat) (xs : List α) (k : Nat) :
    (chunks size xs)[k]? =
      if k * max size 1 < xs.length then some ((xs.drop (k * max size 1)).take (max size 1))
      else none :=
  getElem?_chunksFuel (by omega) (Nat.le_refl _) k

theorem flatten_map_chunksFuel (positive : 0 < size) (enough : xs.length ≤ fuel)
    (f : Nat → α → β) (first : Nat) :
    (((chunksFuel size fuel xs).zipIdx first).map fun chunk => chunk.1.map (f chunk.2)).flatten =
      xs.mapIdx fun i x => f (first + i / size) x := by
  induction fuel generalizing xs first with
  | zero =>
    obtain rfl := List.length_eq_zero_iff.mp (Nat.le_zero.mp enough)
    rfl
  | succ n ih =>
    cases xs with
    | nil => rfl
    | cons x xs =>
      have shorter : ((x :: xs).drop size).length ≤ n := by
        simp only [List.length_drop, List.length_cons] at enough ⊢
        omega
      rw [chunksFuel, List.zipIdx_cons, List.map_cons, List.flatten_cons, ih shorter]
      conv => rhs; rw [← List.take_append_drop size (x :: xs), List.mapIdx_append]
      congr 1
      · -- the members of the first chunk are fewer than its size
        apply List.ext_getElem (by simp)
        intro i inside _
        have below : i < size := by
          simp only [List.length_map, List.length_take] at inside
          omega
        simp only [List.getElem_map, List.getElem_mapIdx, Nat.div_eq_of_lt below, Nat.add_zero]
      · -- the others, if there are any, stand behind a whole chunk
        apply List.ext_getElem (by simp)
        intro i inside _
        have whole : ((x :: xs).take size).length = size := by
          simp only [List.length_mapIdx, List.length_drop] at inside
          rw [List.length_take]
          omega
        simp only [List.getElem_mapIdx, whole, Nat.add_div_right i positive]
        congr 1
        omega

/-- Members are mapped chunk by chunk, each with the number of its chunk. -/
theorem flatten_map_chunks (size : Nat) (xs : List α) (f : Nat → α → β) :
    ((chunks size xs).zipIdx.map fun chunk => chunk.1.map (f chunk.2)).flatten =
      xs.mapIdx fun i x => f (i / max size 1) x := by
  have mapped := flatten_map_chunksFuel (by omega : 0 < max size 1) (Nat.le_refl xs.length) f 0
  simp only [Nat.zero_add] at mapped
  exact mapped

end Chunks

/-! ### Runs of requests -/

/-- The results of one transaction, from the outcome of the request for its chunk: none
if the request has failed or its answer has none. -/
def resultsIn (outcome : Option ResultsByHash) (hash : String) : List ContractResult :=
  (outcome.bind fun byHash => byHash hash).getD []

/-- The results of a chunk are those of each of its transactions. -/
theorem chunkResults_eq (provider : ResultProvider) (hashes : List String) :
    chunkResults provider hashes = hashes.map (resultsIn (provider hashes)) := by
  unfold chunkResults
  cases provider hashes <;> rfl

/-- The requests of a batch, under way. -/
abbrev Fetching := Gather (List String × Nat) (List (List ContractResult))

/-- A run of the requests of a batch, whose outcomes are given by their numbers. -/
def FetchRun (config : BatchConfig) (txs : List Transaction)
    (outcomes : Nat → Option ResultsByHash) (events : List (Gather.Event (List (List ContractResult))))
    (g : Fetching) : Prop :=
  Gather.Run config.limit (fun request => request.1.map (resultsIn (outcomes request.2)))
    (hashChunks config txs).zipIdx events g

/-- The results that have been delivered. -/
def Gather.fetched (g : Fetching) : List (List ContractResult) :=
  g.delivered.flatten

variable {config : BatchConfig} {txs : List Transaction} {outcomes : Nat → Option ResultsByHash}
  {events : List (Gather.Event (List (List ContractResult)))} {g : Fetching}

theorem BatchConfig.limit_pos (config : BatchConfig) : 0 < config.limit := by
  rw [limit]
  omega

/-- What a run of the requests of a batch has sent and delivered: every chunk once and
in order, and for each transaction the results that the outcome for its chunk has. -/
structure Fetched (config : BatchConfig) (txs : List Transaction)
    (outcomes : Nat → Option ResultsByHash) (g : Fetching) : Prop where
  sent : g.sent = (hashChunks config txs).zipIdx
  length_fetched : g.fetched.length = txs.length
  getElem_fetched : ∀ i tx, txs[i]? = some tx →
    g.fetched[i]? = some (resultsIn (outcomes (i / max config.chunkSize 1)) tx.hash)

namespace FetchRun

/-- At its end a run has delivered what the outcome of each request has for the
transactions of its chunk. -/
theorem fetched_eq_mapIdx (run : FetchRun config txs outcomes events g)
    (complete : g.isComplete = true) :
    g.fetched = txs.mapIdx fun i tx => resultsIn (outcomes (i / max config.chunkSize 1)) tx.hash := by
  have delivered := (Gather.Run.of_isComplete run complete).2
  have mapped := flatten_map_chunks config.chunkSize (txs.map Transaction.hash) fun k hash =>
    resultsIn (outcomes k) hash
  rw [Gather.fetched, delivered]
  refine mapped.trans (List.ext_getElem? fun i => ?_)
  simp only [List.getElem?_mapIdx, List.getElem?_map, Option.map_map, Function.comp_def]

theorem fetched (run : FetchRun config txs outcomes events g) (complete : g.isComplete = true) :
    Fetched config txs outcomes g where
  sent := (Gather.Run.of_isComplete run complete).1
  length_fetched := by rw [run.fetched_eq_mapIdx complete, List.length_mapIdx]
  getElem_fetched i tx found := by
    rw [run.fetched_eq_mapIdx complete, List.getElem?_mapIdx, found]
    rfl

/-- At its end a run has delivered the results of each chunk, one after the other. -/
theorem fetched_eq_flatMap (run : FetchRun config txs outcomes events g)
    (complete : g.isComplete = true) {results : List String → List (List ContractResult)}
    (known : ∀ k hashes, (hashChunks config txs)[k]? = some hashes →
      hashes.map (resultsIn (outcomes k)) = results hashes) :
    g.fetched = (hashChunks config txs).flatMap results := by
  have delivered := (Gather.Run.of_isComplete run complete).2
  have same : (hashChunks config txs).zipIdx.map
        (fun request => request.1.map (resultsIn (outcomes request.2))) =
      (hashChunks config txs).zipIdx.map fun request => results request.1 := by
    apply List.map_congr_left
    rintro ⟨hashes, k⟩ member
    exact known k hashes (List.mk_mem_zipIdx_iff_getElem?.mp member)
  have forgotten : (hashChunks config txs).zipIdx.map (fun request => results request.1) =
      (hashChunks config txs).map results := by
    conv => rhs; rw [← List.zipIdx_map_fst 0 (hashChunks config txs), List.map_map]
    rfl
  rw [Gather.fetched, delivered, same, forgotten, List.flatMap]

end FetchRun

/-! ### Providers that know everything -/

/-- Whether a provider never fails and answers every request from one map. -/
def ResultProvider.Knows (provider : ResultProvider) (byHash : ResultsByHash) : Prop :=
  ∀ hashes, ∃ answer, provider hashes = some answer ∧ ∀ hash ∈ hashes, answer hash = byHash hash

/-- The results of the transactions of a batch, from one map. -/
def knownResults (byHash : ResultsByHash) (txs : List Transaction) : List (List ContractResult) :=
  txs.map fun tx => (byHash tx.hash).getD []

/-- Chunks that are answered from one map are answered as a whole. -/
theorem flatMap_hashChunks (config : BatchConfig) (txs : List Transaction)
    (byHash : ResultsByHash) :
    ((hashChunks config txs).flatMap fun hashes => hashes.map fun hash => (byHash hash).getD []) =
      knownResults byHash txs := by
  rw [List.flatMap, ← List.map_flatten, hashChunks, flatten_chunks, List.map_map]
  rfl

/-- An outcome that agrees with a map on the hashes of a chunk gives what the map has. -/
theorem map_resultsIn {outcome : Option ResultsByHash} {byHash : ResultsByHash}
    {hashes : List String}
    (known : ∃ answer, outcome = some answer ∧ ∀ hash ∈ hashes, answer hash = byHash hash) :
    hashes.map (resultsIn outcome) = hashes.map fun hash => (byHash hash).getD [] := by
  obtain ⟨answer, rfl, agrees⟩ := known
  exact List.map_congr_left fun hash member => congrArg (Option.getD · []) (agrees hash member)

/-- Classifying with results from one map is classifying each transaction for itself. -/
theorem classifyEach_knownResults (decimals : Decimals) (account : Option String)
    (txs : List Transaction) (byHash : ResultsByHash) :
    classifyEach decimals account txs (knownResults byHash txs) =
      txs.map fun tx => classify decimals account tx ((byHash tx.hash).getD []) := by
  induction txs with
  | nil => rfl
  | cons tx rest ih => exact congrArg (_ :: ·) ih

namespace ResultProvider.Knows

variable {provider : ResultProvider} {byHash : ResultsByHash} (knows : provider.Knows byHash)
include knows

/-- What is fetched from such a provider does not depend on the chunks. -/
theorem fetchResults_eq (config : BatchConfig) (txs : List Transaction) :
    fetchResults config provider txs = knownResults byHash txs := by
  rw [fetchResults, ← flatMap_hashChunks config txs byHash]
  congr 1
  funext hashes
  rw [chunkResults_eq, map_resultsIn (knows hashes)]

/-- Nor does what is classified with it. -/
theorem classifyAll_eq (config : BatchConfig) (decimals : Decimals) (account : Option String)
    (txs : List Transaction) :
    classifyAll config provider decimals account txs =
      txs.map fun tx => classify decimals account tx ((byHash tx.hash).getD []) := by
  rw [classifyAll, knows.fetchResults_eq, classifyEach_knownResults]

end ResultProvider.Knows

/-! ### Batches -/

/-- The requests of a batch are its hashes, cut into chunks.  Every run of them comes to
an end, whatever the outcomes and in whichever order they arrive; then every chunk has
been requested once, and each transaction has the results that the answer for its own
chunk has for its hash, or none if that request has failed.  The outcome of one chunk
changes nothing about the others. -/
theorem fetched_in_order (config : BatchConfig) (txs : List Transaction) :
    let size := max config.chunkSize 1
    let requests := hashChunks config txs
    (requests.flatten = txs.map Transaction.hash ∧
      ∀ k, requests[k]? =
        if k * size < txs.length then some (((txs.map Transaction.hash).drop (k * size)).take size)
        else none) ∧
    (∀ outcomes, ∃ events g, FetchRun config txs outcomes events g ∧ g.isComplete = true) ∧
    (∀ outcomes events g, FetchRun config txs outcomes events g →
      (g.isComplete = false → ∃ event h, FetchRun config txs outcomes (events ++ [event]) h) ∧
      events.length ≤ 3 * requests.length ∧
      (g.isComplete = true → Fetched config txs outcomes g)) ∧
    (∀ outcomes outcomes' events events' g g' failed,
      FetchRun config txs outcomes events g → g.isComplete = true →
      FetchRun config txs outcomes' events' g' → g'.isComplete = true →
      (∀ k, k ≠ failed → outcomes k = outcomes' k) →
      ∀ i, i / size ≠ failed → g.fetched[i]? = g'.fetched[i]?) ∧
    (∀ byHash outcomes events g, FetchRun config txs outcomes events g → g.isComplete = true →
      (∀ k hashes, requests[k]? = some hashes →
        ∃ answer, outcomes k = some answer ∧ ∀ hash ∈ hashes, answer hash = byHash hash) →
      g.fetched = knownResults byHash txs ∧
      ∀ decimals account, classifyEach decimals account txs g.fetched =
        txs.map fun tx => classify decimals account tx ((byHash tx.hash).getD [])) ∧
    (∀ provider outcomes events g, FetchRun config txs outcomes events g → g.isComplete = true →
      (∀ k hashes, requests[k]? = some hashes → outcomes k = provider hashes) →
      g.fetched = fetchResults config provider txs) ∧
    (∀ provider byHash, ResultProvider.Knows provider byHash →
      fetchResults config provider txs = knownResults byHash txs ∧
      ∀ decimals account,
        (classifyAll config provider decimals account txs =
          txs.map fun tx => classify decimals account tx ((byHash tx.hash).getD [])) ∧
        ∀ more, classifyAll config provider decimals account (txs ++ more) =
          classifyAll config provider decimals account txs ++
            classifyAll config provider decimals account more) := by
  intro size requests
  refine ⟨⟨flatten_chunks _ _, fun k => ?_⟩, fun outcomes => ?_, ?_, ?_, ?_, ?_, ?_⟩
  · have found := getElem?_chunks config.chunkSize (txs.map Transaction.hash) k
    rw [List.length_map] at found
    exact found
  · exact Gather.Run.start.exists_complete config.limit_pos
  · intro outcomes events g run
    have done := Gather.Run.length_add_work run
    rw [List.length_zipIdx] at done
    exact ⟨Gather.Run.exists_next config.limit_pos run, Nat.le.intro done, run.fetched⟩
  · intro outcomes outcomes' events events' g g' failed run complete run' complete' same i apart
    rw [run.fetched_eq_mapIdx complete, run'.fetched_eq_mapIdx complete', List.getElem?_mapIdx,
      List.getElem?_mapIdx, same _ apart]
  · intro byHash outcomes events g run complete known
    have fetched : g.fetched = knownResults byHash txs :=
      (run.fetched_eq_flatMap complete fun k hashes found => map_resultsIn (known k hashes found)).trans
        (flatMap_hashChunks config txs byHash)
    exact ⟨fetched, fun decimals account => fetched ▸ classifyEach_knownResults _ _ _ _⟩
  · intro provider outcomes events g run complete asked
    refine run.fetched_eq_flatMap complete fun k hashes found => ?_
    rw [asked k hashes found, chunkResults_eq]
  · intro provider byHash knows
    refine ⟨knows.fetchResults_eq config txs, fun decimals account =>
      ⟨knows.classifyAll_eq config decimals account txs, fun more => ?_⟩⟩
    rw [knows.classifyAll_eq, knows.classifyAll_eq, knows.classifyAll_eq, List.map_append]

end ChainActivity
