import ChainActivity.Proofs.Cache.Isolation
import ChainActivity.Proofs.Token.Directory

/-!
# Looking decimal places up in a tier that was used before

A durable tier may have decimal places from earlier runs.  They are found before the source
is asked, so that an answer need not be what the source says now.

## Main definitions

* `Directory.Permits` — whether a text gives a collection no other decimal places than some.

## Main statements

* `Directory.find?_native_of_run_tableFor` — the native token keeps its decimal places.
* `Directory.exists_find?_of_run_tableFor` — a token that the source knows has some.
* `Session.Holds.find?_of_run_tableFor` — which are those of the source, if no tier has others.

## Design notes

The last statement is about one collection.  What the tiers have for other collections, or
for other domains, does not matter.
-/

namespace ChainActivity

/-! ### Whatever the tiers have -/

namespace Directory

variable {σ : Type} {config : CacheConfig} {backend : Backend σ}
  {producer : Producer String SourceReply} {s : Session String σ} {token : String}

/-- A lookup that the producer has decimal places for gives some. -/
theorem exists_ok_of_run_decimals {places : UInt32} {reply : SourceReply}
    (replied : producer.reply (Token.collection token) = .ok places)
    (ran : ((decimals config token).run backend producer s).1 = .value reply) :
    ∃ known, reply = .ok known := by
  by_cases native : token = Token.native
  · subst native
    rw [run_decimals_native] at ran
    exact ⟨_, (Ending.value.inj ran).symm⟩
  · rw [decimals_of_ne native] at ran
    exact Cache.exists_ok_of_run_getOrProduce config backend producer .word32
      (slot (Token.collection token)) _ s replied ran

/-- What becomes of a table while more tokens are looked up: the native token keeps its decimal
places, no collection loses any, and those get some that the producer has some for. -/
theorem get?_of_run_extend {tokens : List String} {table filled : DecimalsTable}
    (ran : ((extend config table tokens).run backend producer s).1 = .value filled) :
    (table.get? Token.native = some Token.nativeDecimals →
      filled.get? Token.native = some Token.nativeDecimals) ∧
    ∀ key, (table.get? key).isSome = true ∨ key ∈ tokens.map Token.collection ∧
        (∃ places, producer.reply key = .ok places) → (filled.get? key).isSome = true := by
  induction tokens generalizing table s with
  | nil =>
    obtain rfl := Ending.value.inj ran
    exact ⟨id, fun key present => present.resolve_right fun listed => (nomatch listed.1)⟩
  | cons token rest ih =>
    rw [run_extend_cons] at ran
    rcases looked : ((decimals config token).run backend producer s).1 with (e | places) | _
    · simp only [looked] at ran
      obtain ⟨native, present⟩ := ih ran
      refine ⟨native, fun key known => present key (known.imp_right ?_)⟩
      rintro ⟨listed, replied⟩
      rcases List.mem_cons.mp listed with rfl | behind
      · obtain ⟨known, answered⟩ := replied
        obtain ⟨_, same⟩ := exists_ok_of_run_decimals answered looked
        exact nomatch same
      · exact ⟨behind, replied⟩
    · simp only [looked] at ran
      obtain ⟨native, present⟩ := ih ran
      refine ⟨fun known => native ?_, fun key known => present key ?_⟩
      · by_cases here : Token.collection token = Token.native
        · -- only the native token has this collection, and its decimal places are known
          obtain rfl := Token.collection_eq_native_iff.mp here
          rw [run_decimals_native] at looked
          obtain rfl : Token.nativeDecimals = places := Except.ok.inj (Ending.value.inj looked)
          rw [here, Keyed.get?_insert_self]
        · rw [Keyed.get?_insert_of_ne _ here, known]
      · by_cases here : Token.collection token = key
        · subst here
          exact .inl (by rw [Keyed.get?_insert_self]; rfl)
        · rw [Keyed.get?_insert_of_ne _ here]
          refine known.imp_right fun ⟨listed, replied⟩ => ⟨?_, replied⟩
          exact (List.mem_cons.mp listed).resolve_left (Ne.symm here)
    · simp only [looked] at ran
      exact nomatch ran

/-- Whatever the tiers have, a table that is filled has the native token with its own decimal
places. -/
theorem find?_native_of_run_tableFor {tokens : List String} {table : DecimalsTable}
    (ran : ((tableFor config tokens).run backend producer s).1 = .value table) :
    table.find? Token.native = some Token.nativeDecimals := by
  rw [find?_eq_get?_of_run_tableFor ran, Token.collection_eq_native_iff.mpr rfl]
  exact (get?_of_run_extend ran).1 (Keyed.get?_insert_self _ _ _)

/-- And every token of the list has some decimal places that the producer has some for. -/
theorem exists_find?_of_run_tableFor {tokens : List String} {table : DecimalsTable}
    (ran : ((tableFor config tokens).run backend producer s).1 = .value table)
    (member : token ∈ tokens) {places : UInt32}
    (replied : producer.reply (Token.collection token) = .ok places) :
    ∃ known, table.find? token = some known := by
  rw [find?_eq_get?_of_run_tableFor ran]
  exact Option.isSome_iff_exists.mp ((get?_of_run_extend ran).2 (Token.collection token)
    (.inr ⟨List.mem_map_of_mem member, places, replied⟩))

/-- Whether a text gives a collection no other decimal places than some, if it stands under the
key of that collection. -/
def Permits (config : CacheConfig) (collection : String) (places : UInt32) (key text : String) :
    Prop :=
  key = config.key (slot collection) →
    ∀ known, Codec.word32.decode text = some known → known = places

/-- What the source says may be stored. -/
theorem permits_encode {source : String → SourceReply} {collection : String} {places : UInt32}
    (replied : source collection = .ok places) (other : String) {known : UInt32}
    (answered : source other = .ok known) {text : String}
    (written : Codec.word32.encode known = .ok text) :
    Permits config collection places (config.key (slot other)) text := by
  intro same decoded read
  obtain rfl := slot_injective (config.key_injective same)
  obtain rfl : (Json.ofWord32 known).toText = text := Except.ok.inj written
  obtain rfl : known = decoded := Option.some.inj ((Codec.decode_word32 known).symm.trans read)
  exact Except.ok.inj (answered.symm.trans replied)

end Directory

/-! ### Tiers that have nothing else for a collection -/

namespace Session.Holds

variable {σ : Type} {config : CacheConfig} {backend : Backend σ} {sound : σ → Prop}
  {s : Session String σ} {source : String → SourceReply} {collection : String} {places : UInt32}
  (law : backend.Obeys (Directory.Permits config collection places) sound) (replied : source collection = .ok places)
include law replied

/-- A lookup keeps the invariant, and finds for the collection what the source says. -/
theorem run_decimals (holds : s.Holds (Directory.Permits config collection places) sound)
    (duration : String → Nat) (token : String) :
    let after := (Directory.decimals config token).run backend ⟨source, duration⟩ s
    after.2.Holds (Directory.Permits config collection places) sound ∧
      ∀ known, after.1 = .value (.ok known) → token ≠ Token.native →
        Token.collection token = collection → known = places := by
  intro after
  by_cases native : token = Token.native
  · subst native
    have ran : after = (.value (.ok Token.nativeDecimals), s) := Directory.run_decimals_native
    rw [ran]
    exact ⟨holds, fun _ _ foreign => absurd rfl foreign⟩
  · have ran : after = (Cache.getOrProduce config .word32 (Directory.slot (Token.collection token))
        (Token.collection token)).run backend ⟨source, duration⟩ s := by
      change (Directory.decimals config token).run backend _ s = _
      rw [Directory.decimals_of_ne native]
    obtain ⟨later, answer⟩ := holds.run_getOrProduce law ⟨source, duration⟩ .word32
      (Directory.slot (Token.collection token)) (Token.collection token)
      fun _ _ _ answered written => Directory.permits_encode replied _ answered written
    rw [← ran] at later answer
    refine ⟨later, fun known found _ here => ?_⟩
    subst here
    rcases answer known found with produced | ⟨text, permitted, read⟩
    · exact Except.ok.inj (produced.symm.trans replied)
    · exact permitted rfl known read

/-- While more tokens are looked up a table gets no other decimal places for the collection. -/
theorem get?_of_run_extend (holds : s.Holds (Directory.Permits config collection places) sound)
    (foreign : collection ≠ Token.native) (duration : String → Nat) {tokens : List String}
    {table filled : DecimalsTable}
    (ran : ((Directory.extend config table tokens).run backend ⟨source, duration⟩ s).1 =
      .value filled)
    (only : ∀ known, table.get? collection = some known → known = places) :
    ∀ known, filled.get? collection = some known → known = places := by
  induction tokens generalizing table s with
  | nil =>
    obtain rfl := Ending.value.inj ran
    exact only
  | cons token rest ih =>
    obtain ⟨later, answer⟩ := holds.run_decimals law replied duration token
    rw [Directory.run_extend_cons] at ran
    rcases looked : ((Directory.decimals config token).run backend ⟨source, duration⟩ s).1
      with (e | found) | _
    · simp only [looked] at ran
      exact ih later ran only
    · simp only [looked] at ran
      refine ih later ran fun known entry => ?_
      by_cases here : Token.collection token = collection
      · have other : token ≠ Token.native := by
          rintro rfl
          exact foreign (here.symm.trans (Token.collection_eq_native_iff.mpr rfl))
        rw [here, Keyed.get?_insert_self] at entry
        exact Option.some.inj entry ▸ answer found looked other here
      · rw [Keyed.get?_insert_of_ne _ here] at entry
        exact only known entry
    · simp only [looked] at ran
      exact nomatch ran

/-- If the tiers have no other decimal places for the collection of a token than those that the
source knows, then a filled table has these. -/
theorem find?_of_run_tableFor (holds : s.Holds (Directory.Permits config collection places) sound)
    (foreign : collection ≠ Token.native) (duration : String → Nat) {tokens : List String}
    {table : DecimalsTable}
    (ran : ((Directory.tableFor config tokens).run backend ⟨source, duration⟩ s).1 = .value table)
    {token : String} (member : token ∈ tokens) (own : Token.collection token = collection) :
    table.find? token = some places := by
  subst own
  have missing : DecimalsTable.nativeOnly.get? (Token.collection token) = none := by
    rw [DecimalsTable.nativeOnly, Keyed.get?_insert_of_ne _ (Ne.symm foreign)]
    rfl
  have only := holds.get?_of_run_extend law replied foreign duration ran fun known entry =>
    absurd (entry.symm.trans missing) (Option.some_ne_none known)
  obtain ⟨known, found⟩ := Directory.exists_find?_of_run_tableFor ran member replied
  have entry := (Directory.find?_eq_get?_of_run_tableFor ran token).symm.trans found
  rw [found, only known entry]

end Session.Holds

end ChainActivity
