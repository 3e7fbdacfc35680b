import ChainActivity.Proofs.Token.SharedTier
import ChainActivity.Token.Amount

/-!
# Tables as snapshots of a source

A table of decimal places that is filled through a fresh cache is a snapshot of the source: what
it answers for a token does not depend on the other tokens, nor on the order and the repetitions
of the list.  If no value expires while the table is filled, the source is asked once for each
collection that it knows.

## Main definitions

* `Directory.IsMissing`, `Directory.learn`, `Directory.requests` — which collections are asked
  for, one after the other.
* `PlainMap.Answers` — what is cached are the answers for some collections, none of which is
  older than some moment.

## Main statements

* `Directory.count_requests` — a collection that is known is asked for once.
* `Session.Agrees.asked_run_extend` — filling a table asks for the collections that are missing.
* `Directory.find?_tableFor_congr` — tables of the same tokens answer the same.
* `Directory.tableFor_snapshot` — what a table answers, how often the source is asked, and when
  there is no table.

## Design notes

That no value expires is asked of the end of the run only.  Time passes while the source is at
work, and nobody knows how long; but every moment of the run lies between its start and its end,
and so does the moment since which a value is stored.
-/

namespace ChainActivity

/-! ### Requests -/

namespace Directory

/-- Whether the source has to be asked for a collection, if the answers for some are cached. -/
def IsMissing (answered : List String) (collection : String) : Prop :=
  collection ≠ Token.native ∧ collection ∉ answered

instance (answered : List String) (collection : String) :
    Decidable (IsMissing answered collection) :=
  inferInstanceAs (Decidable (_ ∧ _))

variable (source : String → SourceReply)

/-- The collections with a cached answer after one was looked up. -/
def learn (answered : List String) (collection : String) : List String :=
  if IsMissing answered collection ∧ (source collection).toOption.isSome then
    collection :: answered
  else answered

/-- The collections that the source is asked for while some are looked up. -/
def requests : List String → List String → List String
  | _, [] => []
  | answered, c :: rest =>
    (if IsMissing answered c then [c] else []) ++ requests (learn source answered c) rest

variable {source}

theorem mem_learn_of_ne {c d : String} (apart : c ≠ d) (answered : List String) :
    c ∈ learn source answered d ↔ c ∈ answered := by
  unfold learn
  split
  · rw [List.mem_cons, or_iff_right apart]
  · rfl

theorem mem_learn_self {c : String} {places : UInt32} (foreign : c ≠ Token.native)
    (known : source c = .ok places) (answered : List String) :
    c ∈ learn source answered c := by
  unfold learn
  split
  · exact List.mem_cons_self
  · next stale =>
    by_contra missing
    exact stale ⟨⟨foreign, missing⟩, by rw [known]; rfl⟩

/-- Only collections that are looked up are asked for, and never the native token. -/
theorem mem_of_mem_requests {answered cs : List String} {c : String}
    (asked : c ∈ requests source answered cs) : c ≠ Token.native ∧ c ∈ cs := by
  induction cs generalizing answered with
  | nil => cases asked
  | cons d rest ih =>
    rw [requests, List.mem_append] at asked
    rcases asked with now | later
    · split at now
      · next missing =>
        obtain rfl := List.mem_singleton.mp now
        exact ⟨missing.1, List.mem_cons_self⟩
      · cases now
    · obtain ⟨foreign, member⟩ := ih later
      exact ⟨foreign, List.mem_cons_of_mem d member⟩

/-- A collection that the source knows is asked for once, unless its answer is cached. -/
theorem count_requests {c : String} {places : UInt32} (foreign : c ≠ Token.native)
    (known : source c = .ok places) (answered cs : List String) :
    (requests source answered cs).count c = if c ∈ cs ∧ c ∉ answered then 1 else 0 := by
  induction cs generalizing answered with
  | nil => simp [requests]
  | cons d rest ih =>
    rw [requests, List.count_append, ih]
    by_cases same : c = d
    · -- whether it was asked for before or is now, its answer is cached from here on
      subst same
      have cached := mem_learn_self foreign known answered
      by_cases present : c ∈ answered
      · simp [IsMissing, present, cached]
      · simp [IsMissing, present, cached, foreign]
    · have others : List.count c (if IsMissing answered d then [d] else []) = 0 := by
        split <;> simp [Ne.symm same]
      simp [others, same, mem_learn_of_ne same]

end Directory

/-! ### What is cached -/

/-- Whether what is cached are the answers of a source for some collections, none of which is
older than some moment. -/
structure PlainMap.Answers (m : PlainMap) (source : String → SourceReply) (start : Instant)
    (answered : List String) : Prop where
  holds : m.Holds source
  start_le : start ≤ m.now
  since : ∀ collection v, m.stored (Directory.slot collection) = some v → start ≤ v.since
  mem_iff : ∀ collection, collection ∈ answered ↔
    (m.stored (Directory.slot collection)).isSome = true

namespace PlainMap.Answers

variable {m : PlainMap} {source : String → SourceReply} {start : Instant}
  {answered : List String} {config : CacheConfig}

theorem fresh (now : Instant) (source : String → SourceReply) :
    (PlainMap.fresh now).Answers source now [] where
  holds := .fresh now source
  start_le := Int.le_refl _
  since _ _ found := nomatch found
  mem_iff _ := by simp [PlainMap.fresh]

/-- As long as nothing can expire, the answers that are cached are found. -/
theorem exists_get?_iff (answers : m.Answers source start answered)
    (young : m.now < start + config.lifetime .tokenDecimals) (collection : String) :
    (∃ places, m.get? config .word32 (Directory.slot collection) = some places) ↔
      collection ∈ answered := by
  rw [answers.mem_iff]
  unfold PlainMap.get?
  cases stored : m.stored (Directory.slot collection) with
  | none => simp
  | some v =>
    have since := answers.since collection v stored
    have usable : m.now - v.since < config.lifetime .tokenDecimals :=
      Int.sub_left_lt_of_lt_add (Int.lt_of_lt_of_le young (Int.add_le_add_right since _))
    obtain ⟨places, -, written⟩ := answers.holds collection v stored
    simp only [Directory.slot, if_pos usable, written, Codec.decode_word32]
    simp

/-- Time passes. -/
theorem pass (answers : m.Answers source start answered) (duration : Nat) :
    (m.pass duration).Answers source start answered where
  holds := answers.holds
  start_le := Int.le_trans answers.start_le (Int.le_add_of_nonneg_right (Int.natCast_nonneg _))
  since := answers.since
  mem_iff := answers.mem_iff

/-- An answer is cached. -/
theorem store (answers : m.Answers source start answered) {collection : String}
    {places : UInt32} (replied : source collection = .ok places) :
    (m.store .word32 (Directory.slot collection) places).Answers source start
      (collection :: answered) := by
  have written : Codec.word32.encode places = .ok (Json.ofWord32 places).toText := rfl
  have self := m.stored_store_self (Directory.slot collection) written
  have others : ∀ other, other ≠ collection →
      (m.store .word32 (Directory.slot collection) places).stored (Directory.slot other) =
        m.stored (Directory.slot other) := fun other apart =>
    m.stored_store_of_ne _ (fun equal => apart (Directory.slot_injective equal)) _
  refine ⟨answers.holds.store replied, ?_, ?_, ?_⟩
  · rw [PlainMap.now_store]
    exact answers.start_le
  · intro other v stored
    by_cases same : other = collection
    · subst same
      rw [self] at stored
      obtain rfl := Option.some.inj stored
      exact answers.start_le
    · rw [others other same] at stored
      exact answers.since other v stored
  · intro other
    by_cases same : other = collection
    · subst same
      simp [self]
    · rw [others other same, ← answers.mem_iff, List.mem_cons, or_iff_right same]

/-- A lookup of a collection caches its answer, if there is one. -/
theorem getOrProduce (answers : m.Answers source start answered)
    (young : m.now < start + config.lifetime .tokenDecimals) {collection : String}
    (foreign : collection ≠ Token.native) (duration : Nat) :
    (m.getOrProduce config .word32 (Directory.slot collection) (source collection)
      duration).Answers source start (Directory.learn source answered collection) := by
  have cached := answers.exists_get?_iff young collection
  have missing : Directory.IsMissing answered collection ↔ collection ∉ answered :=
    and_iff_right foreign
  unfold PlainMap.getOrProduce Directory.learn
  split
  · next places found =>
    rw [if_neg]
    · exact answers
    · exact fun learnt => missing.mp learnt.1 (cached.mp ⟨places, found⟩)
  · next e found failed =>
    rw [failed, if_neg]
    · exact answers.pass duration
    · exact fun learnt => Bool.false_ne_true learnt.2
  · next places absent replied =>
    rw [replied, if_pos]
    · exact (answers.pass duration).store replied
    · refine ⟨missing.mpr fun present => ?_, rfl⟩
      obtain ⟨other, found⟩ := cached.mpr present
      cases absent.symm.trans found

end PlainMap.Answers

/-! ### Filling a table -/

section Filling

variable {σ : Type} {config : CacheConfig} {backend : Backend σ} {kept : σ → ExpiringTexts}
  {m : PlainMap} {s : Session String σ} {source : String → SourceReply} {start : Instant}
  {answered : List String}

/-- The source is asked for the collection of a token if that is missing. -/
theorem Session.Agrees.asked_run_decimals (law : backend.KeepsAtMost kept)
    (agrees : s.Agrees config kept m) (answers : m.Answers source start answered)
    (young : s.now < start + config.lifetime .tokenDecimals) (duration : String → Nat)
    (token : String) :
    let after := ((Directory.decimals config token).run backend ⟨source, duration⟩ s).2
    let collection := Token.collection token
    (∃ n, after.Agrees config kept n ∧
        n.Answers source start (Directory.learn source answered collection)) ∧
      after.asked =
        s.asked ++ if Directory.IsMissing answered collection then [collection] else [] := by
  intro after collection
  have foreign_iff : collection = Token.native ↔ token = Token.native :=
    Token.collection_eq_native_iff
  by_cases native : token = Token.native
  · have known : ¬ Directory.IsMissing answered collection :=
      fun missing => missing.1 (foreign_iff.mpr native)
    have unchanged : after = s := by
      subst native
      exact congrArg Prod.snd Directory.run_decimals_native
    rw [unchanged, Directory.learn, if_neg (fun learnt => known learnt.1), if_neg known,
      List.append_nil]
    exact ⟨⟨m, agrees, answers⟩, rfl⟩
  · have foreign : collection ≠ Token.native := fun same => native (foreign_iff.mp same)
    have ran : after = ((Cache.getOrProduce config .word32 (Directory.slot collection)
        collection).run backend ⟨source, duration⟩ s).2 := by
      change ((Directory.decimals config token).run backend _ s).2 = _
      rw [Directory.decimals_of_ne native]
    rw [agrees.now] at young
    have cached := answers.exists_get?_iff young collection
    obtain ⟨-, following, asked⟩ := agrees.run_getOrProduce law ⟨source, duration⟩ .word32
      (Directory.slot collection) collection
    rw [← ran] at following asked
    refine ⟨⟨_, following, answers.getOrProduce young foreign _⟩, asked.trans ?_⟩
    cases found : m.get? config .word32 (Directory.slot collection) with
    | some places =>
      have known : ¬ Directory.IsMissing answered collection :=
        fun missing => missing.2 (cached.mp ⟨places, found⟩)
      rw [if_neg known, List.append_nil]
    | none =>
      have missing : Directory.IsMissing answered collection := by
        refine ⟨foreign, fun present => ?_⟩
        obtain ⟨places, hit⟩ := cached.mpr present
        cases found.symm.trans hit
      rw [if_pos missing]

/-- After the first token the filling is broken off, or the rest fills some table. -/
theorem Directory.exists_run_extend_cons (config : CacheConfig) (backend : Backend σ)
    (producer : Producer String SourceReply) (token : String) (rest : List String)
    (table : DecimalsTable) (s : Session String σ) :
    (extend config table (token :: rest)).run backend producer s =
        (.broken, ((decimals config token).run backend producer s).2) ∨
      ∃ table', (extend config table (token :: rest)).run backend producer s =
        (extend config table' rest).run backend producer
          ((decimals config token).run backend producer s).2 := by
  rw [run_extend_cons]
  rcases looked : ((decimals config token).run backend producer s).1 with (e | places) | _
  · exact .inr ⟨table, by simp only [looked]⟩
  · exact .inr ⟨_, by simp only [looked]; rfl⟩
  · exact .inl (by simp only [looked])

/-- Filling a table asks the source for the collections that are missing, unless it takes so
long that a value could expire.  If it is broken off then some are not looked up any more. -/
theorem Session.Agrees.asked_run_extend (law : backend.KeepsAtMost kept)
    (agrees : s.Agrees config kept m) (answers : m.Answers source start answered)
    (duration : String → Nat) (tokens : List String) (table : DecimalsTable)
    (outlasts : ((Directory.extend config table tokens).run backend ⟨source, duration⟩ s).2.now <
      start + config.lifetime .tokenDecimals) :
    let filled := (Directory.extend config table tokens).run backend ⟨source, duration⟩ s
    ∃ looked, looked <+: tokens ∧ (filled.1 ≠ .broken → looked = tokens) ∧
      filled.2.asked =
        s.asked ++ Directory.requests source answered (looked.map Token.collection) := by
  induction tokens generalizing table m s answered with
  | nil => exact ⟨[], List.prefix_rfl, fun _ => rfl, (List.append_nil _).symm⟩
  | cons token rest ih =>
    intro filled
    -- the run starts no later than it ends, and nothing has expired by then
    have young : s.now < start + config.lifetime .tokenDecimals :=
      Int.lt_of_le_of_lt (Program.now_le_run ..) outlasts
    obtain ⟨⟨n, following, learnt⟩, asked⟩ :=
      agrees.asked_run_decimals law answers young duration token
    rcases Directory.exists_run_extend_cons config backend ⟨source, duration⟩ token rest table s
      with ended | ⟨table', next⟩
    · have ended : filled = (.broken, _) := ended
      refine ⟨[token], List.prefix_append [token] rest, fun returned => ?_, ?_⟩
      · exact absurd (congrArg Prod.fst ended) returned
      · rw [ended, asked, List.map_singleton, Directory.requests, Directory.requests,
          List.append_nil]
    · rw [next] at outlasts
      have next : filled = _ := next
      rw [next]
      obtain ⟨looked, front, all, requested⟩ := ih following learnt table' outlasts
      refine ⟨token :: looked, List.cons_prefix_cons.mpr ⟨rfl, front⟩, fun returned => ?_, ?_⟩
      · rw [all returned]
      · rw [requested, asked, List.map_cons, Directory.requests, List.append_assoc]

end Filling

/-! ### Snapshots -/

namespace Directory

section Answers

variable {config config' : CacheConfig} {failures failures' : Option (Nat → Option CacheError)}
  {now now' : Instant} {source : String → SourceReply} {duration duration' : String → Nat}
  {tokens tokens' : List String} {table table' : DecimalsTable}
  (ran : ((tableFor config tokens).run (.ofFailures failures) ⟨source, duration⟩
    (.fresh now)).1 = .value table)
include ran

/-- A table that is filled through a fresh cache has the native token and what is known for the
collections of the tokens. -/
theorem get?_tableFor (key : String) :
    table.get? key =
      if key = Token.native ∨ key ∈ tokens.map Token.collection then known? source key else none :=
  (Session.Agrees.fresh config failures now).get?_of_run_tableFor
    (Backend.keepsAtMost_ofFailures failures) (.fresh now source) duration ran key

/-- Every other token of the list has what the source says about its collection. -/
theorem find?_tableFor_of_ne {token : String} (member : token ∈ tokens)
    (other : token ≠ Token.native) :
    table.find? token = (source (Token.collection token)).toOption := by
  have foreign : Token.collection token ≠ Token.native :=
    fun same => other (Token.collection_eq_native_iff.mp same)
  rw [find?_tableFor ran member, known?, if_neg foreign]

/-- Only the tokens of the list matter, not their order or their number. -/
theorem find?_tableFor_congr (same : ∀ token, token ∈ tokens' ↔ token ∈ tokens)
    (ran' : ((tableFor config' tokens').run (.ofFailures failures') ⟨source, duration'⟩
      (.fresh now')).1 = .value table') : table'.find? = table.find? := by
  have collections : ∀ key, key ∈ tokens'.map Token.collection ↔
      key ∈ tokens.map Token.collection := fun key => by
    simp only [List.mem_map, same]
  funext token
  simp only [DecimalsTable.find?, get?_tableFor ran, get?_tableFor ran', collections]

end Answers

/-- A table that is filled through a fresh cache is a snapshot of the source.  It has the native
token; every other token of the list has what the source says about its collection, and no
decimal places if that is nothing.  Only the tokens of the list matter for that, not their order
or their number.  The source is asked about collections of the list only, and once about each
that it knows, if the lifetime of a value outlasts the run.

The table is filled unless there is a durable tier and the ends of lifetimes cannot be named by
the end of the run.  If they cannot be named at its start and no call of the tier fails, there is
no table as soon as the source has an answer to give. -/
theorem tableFor_snapshot (config : CacheConfig) (failures : Option (Nat → Option CacheError))
    (now : Instant) (source : String → SourceReply) (duration : String → Nat)
    (tokens : List String) :
    let filled := (tableFor config tokens).run (.ofFailures failures) ⟨source, duration⟩
      (.fresh now)
    (failures = none ∨ filled.2.now + config.lifetime .tokenDecimals < Instant.limit →
      ∃ table, filled.1 = .value table) ∧
    (∀ table, filled.1 = .value table →
      table.find? Token.native = some 18 ∧
      (∀ token ∈ tokens, token ≠ Token.native →
        (∀ places, source (Token.collection token) = .ok places →
          table.find? token = some places) ∧
        ∀ e, source (Token.collection token) = .error e → ∀ units,
          table.find? token = none ∧
            TokenAmount.ofUnits table.find? token units = .error (.unknownToken token)) ∧
      ∀ tokens' : List String, (∀ token, token ∈ tokens' ↔ token ∈ tokens) →
        ∀ config' failures' now' duration' table',
          ((tableFor config' tokens').run (.ofFailures failures') ⟨source, duration'⟩
            (.fresh now')).1 = .value table' → table'.find? = table.find?) ∧
    (filled.2.now < now + config.lifetime .tokenDecimals →
      (∀ c ∈ filled.2.asked, c ≠ Token.native ∧ c ∈ tokens.map Token.collection) ∧
      ∀ c ∈ tokens.map Token.collection, c ≠ Token.native →
        ∀ places, source c = .ok places → filled.2.asked.count c ≤ 1 ∧
          (filled.1 ≠ .broken → filled.2.asked.count c = 1)) ∧
    (failures = some (fun _ => none) → Instant.limit ≤ now + config.lifetime .tokenDecimals →
      (∃ token ∈ tokens, token ≠ Token.native ∧
        ∃ places, source (Token.collection token) = .ok places) → filled.1 = .broken) := by
  intro filled
  refine ⟨?_, ?_, ?_, ?_⟩
  · intro namable
    exact exists_run_tableFor (Backend.completes_ofFailures namable)
  · intro table ran
    refine ⟨find?_native_of_run_tableFor ran, ?_, ?_⟩
    · intro token member other
      have answer : table.find? token = (source (Token.collection token)).toOption :=
        find?_tableFor_of_ne ran member other
      constructor
      · intro places known
        rw [answer, known]
        rfl
      · intro e unknown units
        rw [unknown] at answer
        exact ⟨answer, by rw [TokenAmount.ofUnits, answer]; rfl⟩
    · intro tokens' same config' failures' now' duration' table' ran'
      exact find?_tableFor_congr ran same ran'
  · intro outlasts
    obtain ⟨looked, front, all, asked⟩ :=
      (Session.Agrees.fresh config failures now).asked_run_extend
        (Backend.keepsAtMost_ofFailures failures) (.fresh now source) duration tokens .nativeOnly
        outlasts
    have asked : filled.2.asked = requests source [] (looked.map Token.collection) := asked
    have listed : ∀ c, c ∈ looked.map Token.collection → c ∈ tokens.map Token.collection :=
      fun c member => (front.map Token.collection).subset member
    rw [asked]
    refine ⟨fun c requested => ?_, fun c member foreign places known => ?_⟩
    · obtain ⟨foreign, member⟩ := mem_of_mem_requests requested
      exact ⟨foreign, listed c member⟩
    · rw [count_requests foreign known]
      refine ⟨by split <;> decide, fun returned => ?_⟩
      rw [all returned, if_pos ⟨member, List.not_mem_nil⟩]
  · rintro rfl beyond known
    exact run_tableFor_of_limit_le beyond duration known

/-- Two items of one collection, the native token, and a token that is not known, over a durable
tier that refuses to keep the first answer. -/
theorem tableFor_snapshot_of_two_items :
    let source : String → SourceReply := fun collection =>
      if collection = "FARM-abc123" then .ok 6 else .error (.notFound collection)
    let tokens := ["FARM-abc123-01", Token.native, "NONE-abc123", "FARM-abc123-02"]
    let failures := some fun n => if n = 1 then some Faults.error else none
    let filled := (tableFor .standard tokens).run (.ofFailures failures)
      ⟨source, fun _ => Duration.seconds 1⟩ (.fresh 0)
    ∃ table, filled.1 = .value table ∧
      table.find? "FARM-abc123-02" = some 6 ∧ table.find? "NONE-abc123" = none ∧
      filled.2.asked.count "FARM-abc123" = 1 ∧
      ∀ table', ((tableFor .standard (tokens.reverse ++ tokens)).run (.ofFailures none)
        ⟨source, fun _ => 0⟩ (.fresh 0)).1 = .value table' → table'.find? = table.find? := by
  intro source tokens failures
  obtain ⟨fills, answers, asked, -⟩ :=
    tableFor_snapshot .standard failures 0 source (fun _ => Duration.seconds 1) tokens
  obtain ⟨table, ran⟩ := fills (.inr (by decide +kernel))
  obtain ⟨-, others, same⟩ := answers table ran
  obtain ⟨-, once⟩ := asked (by decide +kernel)
  have known : source "FARM-abc123" = .ok 6 := rfl
  have unknown : source "NONE-abc123" = .error (.notFound "NONE-abc123") := rfl
  have farm : Token.collection "FARM-abc123-02" = "FARM-abc123" := by decide +kernel
  have plain : Token.collection "NONE-abc123" = "NONE-abc123" := by decide +kernel
  refine ⟨table, ran, ?_, ?_, ?_, ?_⟩
  · exact (others "FARM-abc123-02" (by decide) (by decide)).1 6 (by rw [farm, known])
  · exact ((others "NONE-abc123" (by decide) (by decide)).2 _ (by rw [plain, unknown]) .zero).1
  · have listed : "FARM-abc123" ∈ tokens.map Token.collection :=
      List.mem_map.mpr ⟨"FARM-abc123-02", by decide, farm⟩
    exact (once "FARM-abc123" listed (by decide) 6 known).2 fun ended =>
      (nomatch ran.symm.trans ended)
  · exact same (tokens.reverse ++ tokens) (by simp) .standard none 0 (fun _ => 0)

/-- A lifetime that outlasts every run, but whose end cannot be named: over a durable tier in memory
there is no table for a token that the source knows. -/
theorem no_tableFor_of_endless :
    let cache := CacheConfig.plain.withPolicy .tokenDecimals (.ofSeconds 18446744073709551615 true)
    let source : String → SourceReply := fun _ => .ok 6
    let filled := (tableFor cache ["USDC-c76f1f"]).run (.ofFailures (some fun _ => none))
      ⟨source, fun _ => 0⟩ (.fresh 0)
    filled.2.now < 0 + cache.lifetime .tokenDecimals ∧ ¬ ∃ table, filled.1 = .value table := by
  intro cache source filled
  have ended : filled.1 = .broken :=
    run_tableFor_of_limit_le (by decide +kernel) (fun _ => 0)
      ⟨"USDC-c76f1f", List.mem_singleton.mpr rfl, by decide, 6, rfl⟩
  refine ⟨by decide +kernel, ?_⟩
  rintro ⟨table, ran⟩
  exact nomatch ended.symm.trans ran

end Directory

end ChainActivity
