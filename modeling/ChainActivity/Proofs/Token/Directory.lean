import ChainActivity.Proofs.Cache.PlainMap
import ChainActivity.Proofs.Json.RoundTrip
import ChainActivity.Proofs.Token.Collection
import ChainActivity.Token.Directory

/-!
# Looking decimal places up through the cache

A table of decimal places that is filled through a cache, which nobody has used before,
holds what the source says about the collections of the tokens that were asked for.

## Main definitions

* `Directory.known?` — the decimal places of a collection: those of the native token,
  or the answer of a source.
* `PlainMap.Holds` — everything that is cached is an answer of a source.

## Main statements

* `Directory.exists_run_tableFor` — a table is filled, unless the durable tier breaks a call
  off.
* `Directory.find?_eq_get?_of_run_tableFor` — what it has is by collection.
* `Session.Agrees.run_decimals` — a lookup gives the answer of the source, from the
  cache or from the source itself.
* `Session.Agrees.get?_of_run_tableFor`, `Session.Agrees.find?_of_run_tableFor` — what a filled
  table holds.
* `Directory.find?_tableFor` — the same for a cache that nobody has used before.
* `Directory.run_tableFor_of_limit_le` — where no table is filled.

## Design notes

Values may expire while the source is at work, so that it is asked again.  This changes
how often the source is asked but not what is cached: the invariant `PlainMap.Holds`
says nothing about age.
-/

namespace ChainActivity

/-! ### Answers -/

/-- A table has for a token what it has for its collection, unless the token itself is a key that is
no collection. -/
theorem DecimalsTable.find?_eq_get? {table : DecimalsTable} {token : String}
    (own : (table.get? token).isSome = true → Token.collection token = token) :
    table.find? token = table.get? (Token.collection token) := by
  rw [find?]
  rcases entry : table.get? token with _ | places
  · rfl
  · rw [own (by rw [entry]; rfl), entry]
    rfl

namespace Directory

/-- The decimal places of a collection: those of the native token are known, and others
are asked of a source. -/
def known? (source : String → SourceReply) (collection : String) : Option UInt32 :=
  if collection = Token.native then some Token.nativeDecimals else (source collection).toOption

theorem known?_native (source : String → SourceReply) :
    known? source Token.native = some Token.nativeDecimals :=
  if_pos rfl

/-- The slots of different collections are different. -/
theorem slot_injective {c d : String} (same : slot c = slot d) : c = d :=
  Option.some.inj (congrArg Slot.part same)

end Directory

/-! ### What is cached -/

/-- Whether all decimal places that are cached are answers of a source. -/
def PlainMap.Holds (m : PlainMap) (source : String → SourceReply) : Prop :=
  ∀ collection v, m.stored (Directory.slot collection) = some v →
    ∃ places, source collection = .ok places ∧ v.text = (Json.ofWord32 places).toText

namespace PlainMap.Holds

variable {m : PlainMap} {source : String → SourceReply}

theorem fresh (now : Instant) (source : String → SourceReply) : (PlainMap.fresh now).Holds source :=
  fun _ _ found => nomatch found

/-- A cached value that can be read is the answer of the source. -/
theorem source_of_get? (holds : m.Holds source) {config : CacheConfig} {collection : String}
    {places : UInt32}
    (found : m.get? config .word32 (Directory.slot collection) = some places) :
    source collection = .ok places := by
  unfold PlainMap.get? at found
  split at found
  · exact nomatch found
  · next v stored =>
    split at found
    · obtain ⟨answer, replied, written⟩ := holds collection v stored
      rw [written, Codec.decode_word32] at found
      obtain rfl := Option.some.inj found
      exact replied
    · exact nomatch found

/-- Storing an answer of the source keeps the invariant. -/
theorem store (holds : m.Holds source) {collection : String} {places : UInt32}
    (replied : source collection = .ok places) :
    (m.store .word32 (Directory.slot collection) places).Holds source := by
  intro other v stored
  by_cases same : other = collection
  · subst same
    have written : Codec.word32.encode places = .ok (Json.ofWord32 places).toText := rfl
    rw [m.stored_store_self _ written] at stored
    obtain rfl := Option.some.inj stored
    exact ⟨places, replied, rfl⟩
  · have apart : Directory.slot other ≠ Directory.slot collection :=
      fun equal => same (Directory.slot_injective equal)
    rw [m.stored_store_of_ne _ apart] at stored
    exact holds other v stored

/-- Producing keeps the invariant, if the reply is the answer of the source. -/
theorem getOrProduce (holds : m.Holds source) (config : CacheConfig) (collection : String)
    (duration : Nat) :
    (m.getOrProduce config .word32 (Directory.slot collection) (source collection)
      duration).Holds source := by
  unfold PlainMap.getOrProduce
  have later : (m.pass duration).Holds source := holds
  split
  · exact holds
  · exact later
  · next places _ replied => exact later.store replied

end PlainMap.Holds

/-! ### Runs over any durable tier -/

namespace Directory

variable {σ : Type} {config : CacheConfig} {backend : Backend σ}
  {producer : Producer String SourceReply} {s : Session String σ} {token : String}

/-- The decimal places of the native token are known, and nothing is asked. -/
theorem run_decimals_native :
    (decimals config Token.native).run backend producer s =
      (.value (.ok Token.nativeDecimals), s) := by
  rw [decimals, if_pos rfl]
  rfl

/-- Those of any other token are produced if they are missing. -/
theorem decimals_of_ne (foreign : token ≠ Token.native) :
    decimals config token =
      Cache.getOrProduce config .word32 (slot (Token.collection token))
        (Token.collection token) := by
  rw [decimals, if_neg foreign]

/-- Only a durable tier that does not complete its calls breaks a lookup off. -/
theorem not_completes_of_run_decimals
    (ended : ((decimals config token).run backend producer s).1 = .broken) :
    ¬ backend.Completes (config.lifetime .tokenDecimals)
      ((decimals config token).run backend producer s).2.now := by
  by_cases native : token = Token.native
  · subst native
    rw [run_decimals_native] at ended
    exact nomatch ended
  · rw [decimals_of_ne native] at ended ⊢
    exact Cache.not_completes_of_run_getOrProduce config backend producer .word32
      (slot (Token.collection token)) _ s ended

/-- A lookup is broken off, or it has an answer with which the next lookups go on. -/
theorem run_extend_cons (config : CacheConfig) (backend : Backend σ)
    (producer : Producer String SourceReply) (token : String) (rest : List String)
    (table : DecimalsTable) (s : Session String σ) :
    (extend config table (token :: rest)).run backend producer s =
      let looked := (decimals config token).run backend producer s
      match looked.1 with
      | .value (.ok places) =>
        (extend config (table.insert (Token.collection token) places) rest).run backend producer
          looked.2
      | .value (.error _) => (extend config table rest).run backend producer looked.2
      | .broken => (.broken, looked.2) := by
  rw [extend]
  change (Program.bind _ _).run backend producer s = _
  rw [Program.run_bind]
  rcases looked : ((decimals config token).run backend producer s).1 with (e | places) | _
  · simp only [looked]
  · simp only [looked]
  · simp only [looked]
    rfl

/-- Only a durable tier that does not complete its calls breaks the filling of a table off. -/
theorem not_completes_of_run_extend {tokens : List String} {table : DecimalsTable}
    (ended : ((extend config table tokens).run backend producer s).1 = .broken) :
    ¬ backend.Completes (config.lifetime .tokenDecimals)
      ((extend config table tokens).run backend producer s).2.now := by
  induction tokens generalizing table s with
  | nil => exact nomatch ended
  | cons token rest ih =>
    rw [run_extend_cons] at ended ⊢
    rcases looked : ((decimals config token).run backend producer s).1 with (e | places) | _
    · simp only [looked] at ended ⊢
      exact ih ended
    · simp only [looked] at ended ⊢
      exact ih ended
    · simp only [looked]
      exact not_completes_of_run_decimals looked

/-- A table is filled, unless the durable tier does not complete its calls. -/
theorem exists_run_tableFor {tokens : List String}
    (completes : backend.Completes (config.lifetime .tokenDecimals)
      ((tableFor config tokens).run backend producer s).2.now) :
    ∃ table, ((tableFor config tokens).run backend producer s).1 = .value table := by
  rcases ended : ((tableFor config tokens).run backend producer s).1 with table | _
  · exact ⟨table, rfl⟩
  · exact absurd completes (not_completes_of_run_extend ended)

/-- All entries that a table gets are entries of collections of the tokens. -/
theorem mem_collections_of_run_extend {tokens : List String} {table filled : DecimalsTable}
    (ran : ((extend config table tokens).run backend producer s).1 = .value filled) {key : String}
    (present : (filled.get? key).isSome = true) :
    (table.get? key).isSome = true ∨ key ∈ tokens.map Token.collection := by
  induction tokens generalizing table s with
  | nil =>
    obtain rfl := Ending.value.inj ran
    exact .inl present
  | cons token rest ih =>
    rw [run_extend_cons] at ran
    rcases looked : ((decimals config token).run backend producer s).1 with (e | places) | _
    · simp only [looked] at ran
      exact (ih ran).imp_right (List.mem_cons_of_mem _)
    · simp only [looked] at ran
      rcases ih ran with known | listed
      · by_cases here : Token.collection token = key
        · exact .inr (here ▸ List.mem_cons_self ..)
        · rw [Keyed.get?_insert_of_ne _ here] at known
          exact .inl known
      · exact .inr (List.mem_cons_of_mem _ listed)
    · simp only [looked] at ran
      exact nomatch ran

/-- So a filled table has for a token what it has for its collection. -/
theorem find?_eq_get?_of_run_tableFor {tokens : List String} {table : DecimalsTable}
    (ran : ((tableFor config tokens).run backend producer s).1 = .value table) (token : String) :
    table.find? token = table.get? (Token.collection token) := by
  refine DecimalsTable.find?_eq_get? fun present => ?_
  rcases mem_collections_of_run_extend ran present with known | listed
  · by_cases native : token = Token.native
    · exact native ▸ Token.collection_eq_native_iff.mpr rfl
    · rw [DecimalsTable.nativeOnly, Keyed.get?_insert_of_ne _ (Ne.symm native)] at known
      exact absurd known Bool.false_ne_true
  · obtain ⟨other, -, rfl⟩ := List.mem_map.mp listed
    exact Token.collection_collection other

end Directory

/-! ### Lookups -/

section Lookups

variable {σ : Type} {config : CacheConfig} {backend : Backend σ} {kept : σ → ExpiringTexts}
  {m : PlainMap} {s : Session String σ} {source : String → SourceReply}

/-- The decimal places of a token are those that the source knows for its collection,
whether they are cached or not, unless the lookup is broken off. -/
theorem Session.Agrees.run_decimals (law : backend.KeepsAtMost kept)
    (agrees : s.Agrees config kept m) (holds : m.Holds source) (duration : String → Nat)
    (token : String) :
    let after := (Directory.decimals config token).run backend ⟨source, duration⟩ s
    (∀ reply, after.1 = .value reply →
        reply.toOption = Directory.known? source (Token.collection token)) ∧
      ∃ n : PlainMap, after.2.Agrees config kept n ∧ n.Holds source := by
  intro after
  by_cases native : token = Token.native
  · subst native
    have ran : after = (.value (.ok Token.nativeDecimals), s) := Directory.run_decimals_native
    rw [ran, Token.collection_eq_native_iff.mpr rfl, Directory.known?_native]
    refine ⟨?_, m, agrees, holds⟩
    rintro _ ⟨⟩
    rfl
  · have ran : after = (Cache.getOrProduce config .word32 (Directory.slot (Token.collection token))
        (Token.collection token)).run backend ⟨source, duration⟩ s := by
      change (Directory.decimals config token).run backend _ s = _
      rw [Directory.decimals_of_ne native]
    obtain ⟨answer, following, -⟩ := agrees.run_getOrProduce law ⟨source, duration⟩ .word32
      (Directory.slot (Token.collection token)) (Token.collection token)
    have foreign : Token.collection token ≠ Token.native :=
      fun same => native (Token.collection_eq_native_iff.mp same)
    rw [← ran] at answer following
    refine ⟨fun reply replied => ?_, _, following,
      holds.getOrProduce config (Token.collection token) _⟩
    rw [replied] at answer
    have answer := Ending.value.inj (answer.resolve_right fun ended => (nomatch ended.1))
    rw [Directory.known?, if_neg foreign, answer]
    split
    · next places found => rw [holds.source_of_get? found]
    · rfl

/-- Filling a table gives each collection of the tokens the decimal places that are
known for it. -/
theorem Session.Agrees.get?_of_run_extend (law : backend.KeepsAtMost kept)
    (agrees : s.Agrees config kept m) (holds : m.Holds source) (duration : String → Nat)
    {tokens : List String} {table filled : DecimalsTable}
    (ran : ((Directory.extend config table tokens).run backend ⟨source, duration⟩ s).1 =
      .value filled) (key : String) :
    filled.get? key =
      if key ∈ tokens.map Token.collection then (Directory.known? source key).or (table.get? key)
      else table.get? key := by
  induction tokens generalizing table m s with
  | nil =>
    obtain rfl := Ending.value.inj ran
    rfl
  | cons token rest ih =>
    obtain ⟨answer, n, following, keeping⟩ := agrees.run_decimals law holds duration token
    rw [Directory.run_extend_cons] at ran
    rcases looked : ((Directory.decimals config token).run backend ⟨source, duration⟩ s).1
      with (e | places) | _
    · have unknown : Directory.known? source (Token.collection token) = none :=
        (answer _ looked).symm
      simp only [looked] at ran
      refine (ih following keeping ran).trans ?_
      by_cases here : key = Token.collection token
      · subst here
        simp [unknown]
      · simp [here]
    · have known : Directory.known? source (Token.collection token) = some places :=
        (answer _ looked).symm
      simp only [looked] at ran
      -- a later token of the same collection is answered alike
      refine (ih following keeping ran).trans ?_
      by_cases here : key = Token.collection token
      · subst here
        simp [known]
      · simp [here, Keyed.get?_insert_of_ne _ (Ne.symm here)]
    · simp only [looked] at ran
      exact nomatch ran

/-- A table that is filled through a cache holds the native token and what the source
knows about the collections of the tokens; nothing else. -/
theorem Session.Agrees.get?_of_run_tableFor (law : backend.KeepsAtMost kept)
    (agrees : s.Agrees config kept m) (holds : m.Holds source) (duration : String → Nat)
    {tokens : List String} {table : DecimalsTable}
    (ran : ((Directory.tableFor config tokens).run backend ⟨source, duration⟩ s).1 = .value table)
    (key : String) :
    table.get? key =
      if key = Token.native ∨ key ∈ tokens.map Token.collection then Directory.known? source key
      else none := by
  refine (agrees.get?_of_run_extend law holds duration ran key).trans ?_
  by_cases native : key = Token.native
  · subst native
    simp [DecimalsTable.nativeOnly, Directory.known?_native]
  · have missing : DecimalsTable.nativeOnly.get? key = none := by
      rw [DecimalsTable.nativeOnly, Keyed.get?_insert_of_ne _ (Ne.symm native)]
      rfl
    simp [native, missing]

/-- In such a table every token of the list has the decimal places that are known for
its collection. -/
theorem Session.Agrees.find?_of_run_tableFor (law : backend.KeepsAtMost kept)
    (agrees : s.Agrees config kept m) (holds : m.Holds source) (duration : String → Nat)
    {tokens : List String} {table : DecimalsTable}
    (ran : ((Directory.tableFor config tokens).run backend ⟨source, duration⟩ s).1 = .value table)
    {token : String} (member : token ∈ tokens) :
    table.find? token = Directory.known? source (Token.collection token) := by
  rw [Directory.find?_eq_get?_of_run_tableFor ran]
  exact (agrees.get?_of_run_tableFor law holds duration ran _).trans
    (if_pos (.inr (List.mem_map_of_mem member)))

/-- Where nothing is cached and the durable tier breaks off what is stored, a lookup is broken off
that the source has an answer for.  Any other one has an answer, and caches nothing. -/
theorem Session.Agrees.run_decimals_of_breaksOff (law : backend.KeepsAtMost kept)
    (agrees : s.Agrees config kept m) (uncached : ∀ c, m.stored (Directory.slot c) = none)
    (breaks : backend.BreaksOff (config.lifetime .tokenDecimals) s.now)
    (source : String → SourceReply) (duration : String → Nat) (token : String) :
    let after := (Directory.decimals config token).run backend ⟨source, duration⟩ s
    (token ≠ Token.native ∧ (∃ places, source (Token.collection token) = .ok places) ∧
        after.1 = .broken) ∨
      ¬ (token ≠ Token.native ∧ ∃ places, source (Token.collection token) = .ok places) ∧
        (∃ reply, after.1 = .value reply) ∧
        ∃ n : PlainMap, after.2.Agrees config kept n ∧
          ∀ c, n.stored (Directory.slot c) = none := by
  intro after
  by_cases native : token = Token.native
  · subst native
    have ran : after = (.value (.ok Token.nativeDecimals), s) := Directory.run_decimals_native
    rw [ran]
    exact .inr ⟨fun foreign => foreign.1 rfl, ⟨_, rfl⟩, m, agrees, uncached⟩
  · let slot := Directory.slot (Token.collection token)
    have ran : after = (Cache.getOrProduce config .word32 slot (Token.collection token)).run backend
        ⟨source, duration⟩ s := by
      change (Directory.decimals config token).run backend _ s = _
      rw [Directory.decimals_of_ne native]
    obtain ⟨answer, reading, -⟩ := agrees.run_get law ⟨source, duration⟩ .word32 slot
    have unread : ((Cache.get config .word32 slot).run backend ⟨source, duration⟩ s).1 = none := by
      rw [answer, PlainMap.get?, uncached]
    rw [ran]
    rcases known : source (Token.collection token) with e | places
    · rw [Cache.run_getOrProduce_of_none config backend ⟨source, duration⟩ .word32 slot _ s unread]
      simp only [known]
      refine .inr ⟨?_, ⟨_, rfl⟩, _, reading.pass _ _, uncached⟩
      rintro ⟨-, places, learnt⟩
      cases learnt
    · exact .inl ⟨native, ⟨places, rfl⟩, Cache.run_getOrProduce_of_breaksOff config backend
        ⟨source, duration⟩ .word32 slot _ s unread known rfl breaks⟩

/-- So the filling of a table is broken off if the source has an answer for some token. -/
theorem Session.Agrees.run_extend_of_breaksOff (law : backend.KeepsAtMost kept)
    (agrees : s.Agrees config kept m) (uncached : ∀ c, m.stored (Directory.slot c) = none)
    (breaks : backend.BreaksOff (config.lifetime .tokenDecimals) s.now) (duration : String → Nat)
    {tokens : List String} (table : DecimalsTable)
    (known : ∃ token ∈ tokens, token ≠ Token.native ∧
      ∃ places, source (Token.collection token) = .ok places) :
    ((Directory.extend config table tokens).run backend ⟨source, duration⟩ s).1 = .broken := by
  induction tokens generalizing table m s with
  | nil =>
    obtain ⟨token, member, -⟩ := known
    exact nomatch member
  | cons token rest ih =>
    rw [Directory.run_extend_cons]
    rcases agrees.run_decimals_of_breaksOff law uncached breaks source duration token with
      ⟨-, -, ended⟩ | ⟨unknown, ⟨reply, looked⟩, n, following, empty⟩
    · simp only [ended]
    · have later := breaks.mono (Program.now_le_run backend ⟨source, duration⟩
        (Directory.decimals config token) s)
      have behind : ∃ t ∈ rest, t ≠ Token.native ∧
          ∃ places, source (Token.collection t) = .ok places := by
        obtain ⟨t, member, learnt⟩ := known
        rcases List.mem_cons.mp member with rfl | member
        · exact absurd learnt unknown
        · exact ⟨t, member, learnt⟩
      cases reply with
      | error e =>
        simp only [looked]
        exact ih following empty later table behind
      | ok places =>
        simp only [looked]
        exact ih following empty later _ behind

end Lookups

/-- A table that is filled through a cache of its own has what is known for the
collection of each token, whichever calls of the durable tier fail. -/
theorem Directory.find?_tableFor {config : CacheConfig}
    {failures : Option (Nat → Option CacheError)} {now : Instant}
    {source : String → SourceReply} {duration : String → Nat} {tokens : List String}
    {table : DecimalsTable}
    (ran : ((tableFor config tokens).run (.ofFailures failures) ⟨source, duration⟩
      (.fresh now)).1 = .value table) {token : String} (member : token ∈ tokens) :
    table.find? token = known? source (Token.collection token) :=
  (Session.Agrees.fresh config failures now).find?_of_run_tableFor
    (Backend.keepsAtMost_ofFailures failures) (.fresh now source) duration ran member

/-- Over a durable tier in memory whose clock cannot name the ends of lifetimes no table is filled
for which the source has an answer to give. -/
theorem Directory.run_tableFor_of_limit_le {config : CacheConfig} {now : Instant}
    (beyond : Instant.limit ≤ now + config.lifetime .tokenDecimals)
    {source : String → SourceReply} (duration : String → Nat) {tokens : List String}
    (known : ∃ token ∈ tokens, token ≠ Token.native ∧
      ∃ places, source (Token.collection token) = .ok places) :
    ((tableFor config tokens).run (.ofFailures (some fun _ => none)) ⟨source, duration⟩
      (.fresh now)).1 = .broken :=
  (Session.Agrees.fresh config (some fun _ => none) now).run_extend_of_breaksOff
    (Backend.keepsAtMost_ofFailures _) (fun _ => rfl) (Backend.breaksOff_ofFailures beyond) duration
    .nativeOnly known

end ChainActivity
