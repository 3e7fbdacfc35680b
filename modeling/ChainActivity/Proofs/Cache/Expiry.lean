import ChainActivity.Cache.Backend
import Mathlib.Data.List.Induction
import Mathlib.Data.Set.Card

/-!
# Texts that expire

A durable tier in memory answers from the history of its calls: what was stored last under a key,
unless everything was dropped since, is seen until its lifetime is over.  Reading, the remaining
lifetime and the number of texts agree on what is seen, although an expired text stays in the tier.

## Main definitions

* `MemoryTier`, `MemoryCall` — a durable tier in memory with its clock, and its calls.
* `MemoryCall.completed` — the calls that are not broken off.
* `MemoryTier.runAll` — the tier after calls and pauses, in order.
* `MemoryTier.LastSet` — the call that stored last under a key, with its moment and lifetime.

## Main statements

* `Keyed.IsUnique.encard_keys` — entries of different keys are counted once for each key.
* `MemoryTier.get?_runAll_iff` — the tier keeps what was stored last, expired or not.
* `MemoryTier.runAll_completed` — calls that are broken off leave no trace.
* `MemoryTier.answers_of_history` — what each call answers after any calls.
* `MemoryTier.not_read_of_endless` — a text that is not read although it was to be kept.

## Design notes

What is kept under a key does not depend on time, and what is seen depends on the clock only
through one comparison.  So the induction over the history is about the texts that are kept, and
the clock enters afterwards.

A call that stores a text for longer than the clock can name is broken off.  So the history of a
key is that of the calls that were completed, which are told by the moments at which they were made.
-/

namespace ChainActivity

/-! ### Entries of different keys -/

namespace Keyed

variable {α : Type}

/-- No key has two entries. -/
def IsUnique (m : Keyed α) : Prop :=
  (m.entries.map Prod.fst).Nodup

theorem isUnique_empty : (empty : Keyed α).IsUnique :=
  List.nodup_nil

theorem mem_keys_insertEntry {key k : String} {value : α} {entries : List (String × α)} :
    k ∈ (insertEntry key value entries).map Prod.fst ↔ k = key ∨ k ∈ entries.map Prod.fst := by
  induction entries with
  | nil => simp [insertEntry]
  | cons entry rest ih =>
    rw [insertEntry]
    split
    · next same => simp [same]
    · rw [List.map_cons, List.mem_cons, ih, List.map_cons, List.mem_cons]
      exact or_left_comm

/-- A key that has an entry gets no second one. -/
theorem nodup_keys_insertEntry {key : String} {value : α} {entries : List (String × α)}
    (once : (entries.map Prod.fst).Nodup) :
    ((insertEntry key value entries).map Prod.fst).Nodup := by
  induction entries with
  | nil => exact List.nodup_singleton key
  | cons entry rest ih =>
    rw [List.map_cons, List.nodup_cons] at once
    rw [insertEntry]
    split
    · next same => exact List.nodup_cons.mpr (same ▸ once)
    · next other =>
      refine List.nodup_cons.mpr ⟨fun member => ?_, ih once.2⟩
      rcases mem_keys_insertEntry.mp member with same | later
      · exact other same
      · exact once.1 later

theorem IsUnique.insert {m : Keyed α} (unique : m.IsUnique) (key : String) (value : α) :
    (m.insert key value).IsUnique :=
  nodup_keys_insertEntry unique

/-- An entry gives the value of its key. -/
theorem IsUnique.mem_entries_iff {m : Keyed α} (unique : m.IsUnique) {key : String} {value : α} :
    (key, value) ∈ m.entries ↔ m.get? key = some value := by
  obtain ⟨entries⟩ := m
  unfold IsUnique at unique
  show (key, value) ∈ entries ↔ findEntry? key entries = some value
  induction entries with
  | nil => exact iff_of_false List.not_mem_nil nofun
  | cons entry rest ih =>
    obtain ⟨k, v⟩ := entry
    rw [List.map_cons, List.nodup_cons] at unique
    rw [List.mem_cons, findEntry?]
    split
    · next same =>
      subst same
      have absent : (k, value) ∉ rest := fun member =>
        unique.1 (List.mem_map.mpr ⟨_, member, rfl⟩)
      simp [absent, eq_comm]
    · next other => simp [Ne.symm other, ih unique.2]

/-- The keys whose values satisfy a condition are as many as their entries. -/
theorem IsUnique.encard_keys {m : Keyed α} (unique : m.IsUnique) (condition : α → Bool) :
    {key | ∃ value, m.get? key = some value ∧ condition value = true}.encard =
      m.count condition := by
  let chosen := m.entries.filter fun entry => condition entry.2
  have keys : {key | ∃ value, m.get? key = some value ∧ condition value = true} =
      (chosen.map Prod.fst).toFinset := by
    ext key
    simp [chosen, ← unique.mem_entries_iff]
  have once : (chosen.map Prod.fst).Nodup :=
    unique.sublist (List.filter_sublist.map Prod.fst)
  rw [keys, Set.encard_coe_eq_coe_finsetCard, List.toFinset_card_of_nodup once, List.length_map,
    ← List.countP_eq_length_filter]
  rfl

end Keyed

/-! ### Calls -/

/-- A durable tier in memory, at some moment. -/
structure MemoryTier where
  now : Instant
  texts : ExpiringTexts

/-- A call of a durable tier in memory, or a pause before the next one. -/
inductive MemoryCall where
  | set (key text : String) (lifetime : Nat)
  | get (key : String)
  | ttl (key : String)
  | count
  | flush
  | pass (duration : Nat)
  deriving DecidableEq, Repr

namespace MemoryCall

/-- The time that passes. -/
def duration : MemoryCall → Nat
  | pass duration => duration
  | _ => 0

/-- Whether a call stores under a key. -/
def Stores (key : String) : MemoryCall → Prop
  | set k _ _ => k = key
  | _ => False

/-- Whether a call neither stores under a key nor drops everything. -/
def Spares (key : String) : MemoryCall → Prop
  | set k _ _ => k ≠ key
  | flush => False
  | _ => True

/-- What is kept under a key changes by storing under it and by dropping everything. -/
theorem spares_or (call : MemoryCall) (key : String) :
    call.Spares key ∨ (∃ text lifetime, call = .set key text lifetime) ∨ call = .flush := by
  cases call with
  | set k text lifetime =>
    by_cases same : k = key
    · subst same
      exact .inr (.inl ⟨text, lifetime, rfl⟩)
    · exact .inl same
  | flush => exact .inr (.inr rfl)
  | _ => exact .inl trivial

end MemoryCall

namespace MemoryCall

/-- The time that calls and pauses take together. -/
def elapsed (calls : List MemoryCall) : Nat :=
  (calls.map duration).sum

theorem elapsed_append (calls later : List MemoryCall) :
    elapsed (calls ++ later) = elapsed calls + elapsed later := by
  rw [elapsed, List.map_append, List.sum_append]
  rfl

/-- Whether a call is completed at some moment: the end of what it stores can be named. -/
def Completes (now : Instant) : MemoryCall → Prop
  | set _ _ lifetime => now + lifetime < Instant.limit
  | _ => True

instance (now : Instant) : DecidablePred (Completes now)
  | set _ _ lifetime => inferInstanceAs (Decidable (now + lifetime < Instant.limit))
  | get _ | ttl _ | count | flush | pass _ => .isTrue trivial

/-- The calls among those from some moment on that are completed. -/
def completed (now : Instant) : List MemoryCall → List MemoryCall
  | [] => []
  | call :: rest =>
    let later := completed (now + call.duration) rest
    if call.Completes now then call :: later else later

theorem completed_append (start : Instant) (calls later : List MemoryCall) :
    completed start (calls ++ later) =
      completed start calls ++ completed (start + elapsed calls) later := by
  induction calls generalizing start with
  | nil => rw [elapsed, List.map_nil, List.sum_nil, Int.natCast_zero, Int.add_zero]; rfl
  | cons call rest ih =>
    have passed : start + call.duration + elapsed rest = start + elapsed (call :: rest) := by
      rw [elapsed, elapsed, List.map_cons, List.sum_cons, Int.natCast_add, Int.add_assoc]
    rw [List.cons_append, completed, completed, ih, passed]
    split
    · rfl
    · rfl

theorem completed_concat (start : Instant) (calls : List MemoryCall) (call : MemoryCall) :
    completed start (calls ++ [call]) =
      if call.Completes (start + elapsed calls) then completed start calls ++ [call]
      else completed start calls := by
  rw [completed_append]
  show completed start calls ++ (if _ then _ else _) = _
  split
  · rfl
  · exact List.append_nil _

/-- Only calls that were made are completed. -/
theorem mem_of_mem_completed {now : Instant} {call : MemoryCall} {calls : List MemoryCall}
    (member : call ∈ completed now calls) : call ∈ calls := by
  induction calls generalizing now with
  | nil => exact member
  | cons first rest ih =>
    rw [completed] at member
    split at member
    · exact (List.mem_cons.mp member).elim (· ▸ List.mem_cons_self) (List.mem_cons_of_mem _ ∘ ih)
    · exact List.mem_cons_of_mem _ (ih member)

/-- A call that is not completed takes no time. -/
theorem duration_eq_zero {call : MemoryCall} {now : Instant} (ends : ¬ call.Completes now) :
    call.duration = 0 := by
  cases call with
  | pass duration => exact absurd trivial ends
  | _ => rfl

/-- What is not completed takes no time. -/
theorem elapsed_completed (start : Instant) (calls : List MemoryCall) :
    elapsed (completed start calls) = elapsed calls := by
  induction calls using List.reverseRecOn with
  | nil => rfl
  | append_singleton calls call ih =>
    rw [completed_concat, elapsed_append]
    split
    · rw [elapsed_append, ih]
    · next ends =>
      rw [ih, elapsed, elapsed, List.map_singleton, List.sum_singleton, duration_eq_zero ends,
        Nat.add_zero]

end MemoryCall

namespace MemoryTier

/-- An empty tier. -/
def fresh (now : Instant) : MemoryTier := ⟨now, .empty⟩

/-- How a call ends that stores a text. -/
def set (tier : MemoryTier) (key text : String) (lifetime : Nat) :
    Ending (Except CacheError Unit) :=
  (Backend.memory.set key text lifetime tier.now tier.texts).1

/-- What reading a key answers. -/
def get (tier : MemoryTier) (key : String) : Except CacheError (Option String) :=
  (Backend.memory.get key tier.now tier.texts).1

/-- What is answered for the remaining lifetime of a key. -/
def ttl (tier : MemoryTier) (key : String) : Except CacheError (Option Nat) :=
  (Backend.memory.ttl key tier.now tier.texts).1

/-- What is answered for the number of texts. -/
def size (tier : MemoryTier) : Nat :=
  tier.texts.visibleCount tier.now

/-- What a call or a pause makes of a tier. -/
def call (tier : MemoryTier) : MemoryCall → MemoryTier
  | .set key text lifetime =>
    { tier with texts := (Backend.memory.set key text lifetime tier.now tier.texts).2 }
  | .get key => { tier with texts := (Backend.memory.get key tier.now tier.texts).2 }
  | .ttl key => { tier with texts := (Backend.memory.ttl key tier.now tier.texts).2 }
  | .count => tier
  | .flush => { tier with texts := (Backend.memory.flush tier.now tier.texts).2 }
  | .pass duration => { tier with now := tier.now + duration }

/-- An empty tier after calls and pauses, one after the other. -/
def runAll (start : Instant) (calls : List MemoryCall) : MemoryTier :=
  calls.foldl call (fresh start)

/-- Whether a text was stored under a key at some moment for some time, and was neither replaced
nor dropped since. -/
def LastSet (start : Instant) (calls : List MemoryCall) (key text : String) (since : Instant)
    (lifetime : Nat) : Prop :=
  ∃ before after, calls = before ++ .set key text lifetime :: after ∧
    since = start + MemoryCall.elapsed before ∧ ∀ call ∈ after, call.Spares key

/-! ### Histories -/

variable {start since : Instant} {calls : List MemoryCall} {key text : String} {lifetime : Nat}

theorem runAll_concat (start : Instant) (calls : List MemoryCall) (call : MemoryCall) :
    runAll start (calls ++ [call]) = (runAll start calls).call call := by
  rw [runAll, List.foldl_append]
  rfl

/-- What a call means for the history of a key: it stores under the key, or it leaves the key as it
was. -/
theorem lastSet_concat_iff {call : MemoryCall} :
    LastSet start (calls ++ [call]) key text since lifetime ↔
      call = .set key text lifetime ∧ since = start + MemoryCall.elapsed calls ∨
      call.Spares key ∧ LastSet start calls key text since lifetime := by
  constructor
  · rintro ⟨before, after, split, moment, spared⟩
    -- the call is the one that stores, or one of those behind it
    rcases after.eq_nil_or_concat with rfl | ⟨after, last, rfl⟩
    · obtain ⟨rfl, same⟩ := List.append_inj' split rfl
      exact .inl ⟨List.singleton_inj.mp same, moment⟩
    · rw [List.concat_eq_append] at split spared
      rw [← List.cons_append, ← List.append_assoc] at split
      obtain ⟨rfl, same⟩ := List.append_inj' split rfl
      obtain rfl := List.singleton_inj.mp same
      rw [List.forall_mem_append, List.forall_mem_singleton] at spared
      exact .inr ⟨spared.2, before, after, rfl, moment, spared.1⟩
  · rintro (⟨rfl, rfl⟩ | ⟨spares, before, after, rfl, moment, spared⟩)
    · exact ⟨calls, [], rfl, rfl, fun _ member => nomatch member⟩
    · refine ⟨before, after ++ [call], by simp, moment, ?_⟩
      rw [List.forall_mem_append, List.forall_mem_singleton]
      exact ⟨spared, spares⟩

/-- A key under which nothing is stored any more has no later history. -/
theorem LastSet.of_append {later : List MemoryCall} (others : ∀ call ∈ later, ¬ call.Stores key)
    (last : LastSet start (calls ++ later) key text since lifetime) :
    LastSet start calls key text since lifetime := by
  induction later using List.reverseRecOn with
  | nil => rwa [List.append_nil] at last
  | append_singleton later call ih =>
    rw [List.forall_mem_append, List.forall_mem_singleton] at others
    rw [← List.append_assoc, lastSet_concat_iff] at last
    rcases last with ⟨rfl, -⟩ | ⟨-, last⟩
    · exact absurd rfl others.2
    · exact ih others.1 last

/-- The clock shows the time that has passed. -/
theorem now_runAll (start : Instant) (calls : List MemoryCall) :
    (runAll start calls).now = start + MemoryCall.elapsed calls := by
  induction calls using List.reverseRecOn with
  | nil => exact (Int.add_zero start).symm
  | append_singleton calls call ih =>
    rw [runAll_concat, MemoryCall.elapsed_append, Int.natCast_add, ← Int.add_assoc, ← ih]
    cases call with
    | pass duration => rfl
    | _ => exact (Int.add_zero _).symm

theorem now_le_runAll_append (start : Instant) (calls later : List MemoryCall) :
    (runAll start calls).now ≤ (runAll start (calls ++ later)).now := by
  rw [now_runAll, now_runAll, MemoryCall.elapsed_append, Int.natCast_add, ← Int.add_assoc]
  exact Int.le_add_of_nonneg_right (Int.natCast_nonneg _)

/-- A call that is completed and stores keeps the text until the end of its lifetime. -/
theorem texts_call_set {tier : MemoryTier} (namable : tier.now + lifetime < Instant.limit) :
    (tier.call (.set key text lifetime)).texts =
      tier.texts.store key text (tier.now + lifetime) :=
  congrArg Prod.snd (Backend.set_memory_of_lt namable)

/-- A call that is broken off changes nothing. -/
theorem call_of_not_completes {call : MemoryCall} {tier : MemoryTier}
    (ends : ¬ call.Completes tier.now) : tier.call call = tier := by
  cases call with
  | set key text lifetime =>
    have same : (Backend.memory.set key text lifetime tier.now tier.texts).2 = tier.texts :=
      congrArg Prod.snd (Backend.set_memory_of_le (Int.not_lt.mp ends))
    rw [call, same]
  | _ => exact absurd trivial ends

/-- Calls that are broken off leave no trace. -/
theorem runAll_completed (start : Instant) (calls : List MemoryCall) :
    runAll start (MemoryCall.completed start calls) = runAll start calls := by
  induction calls using List.reverseRecOn with
  | nil => rfl
  | append_singleton calls call ih =>
    rw [MemoryCall.completed_concat, runAll_concat]
    split
    · rw [runAll_concat, ih]
    · next ends =>
      rw [← now_runAll] at ends
      rw [ih, call_of_not_completes ends]

/-- A call that spares a key keeps its text. -/
theorem get?_call_of_spares {call : MemoryCall} (spares : call.Spares key) (tier : MemoryTier) :
    (tier.call call).texts.get? key = tier.texts.get? key := by
  by_cases completes : call.Completes tier.now
  · cases call with
    | set k text lifetime =>
      rw [texts_call_set completes]
      exact Keyed.get?_insert_of_ne _ spares _
    | flush => exact absurd spares not_false
    | _ => rfl
  · rw [call_of_not_completes completes]

/-- The tier keeps what was stored last by a call that was completed, whether it is seen or not. -/
theorem get?_runAll_iff {expiresAt : Instant} :
    (runAll start calls).texts.get? key = some ⟨text, expiresAt⟩ ↔
      ∃ since lifetime, LastSet start (MemoryCall.completed start calls) key text since lifetime ∧
        expiresAt = since + lifetime := by
  induction calls using List.reverseRecOn with
  | nil =>
    refine iff_of_false nofun ?_
    rintro ⟨since, lifetime, ⟨before, after, split, -⟩, -⟩
    exact absurd split (by simp [MemoryCall.completed])
  | append_singleton calls call ih =>
    rw [runAll_concat, MemoryCall.completed_concat, ← now_runAll]
    split
    · next completes =>
      simp only [lastSet_concat_iff, MemoryCall.elapsed_completed]
      rcases call.spares_or key with spares | ⟨t, l, rfl⟩ | rfl
      · rw [get?_call_of_spares spares, ih]
        have other : ∀ lifetime, call ≠ .set key text lifetime := by
          rintro lifetime rfl
          exact spares rfl
        simp [other, spares]
      · have kept : ((runAll start calls).call (.set key t l)).texts.get? key =
            some ⟨t, (runAll start calls).now + l⟩ := by
          rw [texts_call_set completes]
          exact Keyed.get?_insert_self _ _ _
        rw [kept, now_runAll]
        constructor
        · rintro ⟨⟩
          exact ⟨_, l, .inl ⟨rfl, rfl⟩, rfl⟩
        · rintro ⟨since, lifetime, ⟨⟨⟩, rfl⟩ | ⟨spares, -⟩, rfl⟩
          · rfl
          · exact absurd rfl spares
      · refine iff_of_false nofun ?_
        rintro ⟨since, lifetime, ⟨⟨⟩, -⟩ | ⟨spares, -⟩, -⟩
        exact spares
    · next ends => rw [call_of_not_completes ends, ih]

/-- No key is kept twice. -/
theorem isUnique_runAll (start : Instant) (calls : List MemoryCall) :
    (runAll start calls).texts.IsUnique := by
  induction calls using List.reverseRecOn with
  | nil => exact Keyed.isUnique_empty
  | append_singleton calls call ih =>
    rw [runAll_concat]
    by_cases completes : call.Completes (runAll start calls).now
    · cases call with
      | set key text lifetime =>
        rw [texts_call_set completes]
        exact ih.insert key _
      | flush => exact Keyed.isUnique_empty
      | _ => exact ih
    · rwa [call_of_not_completes completes]

/-! ### Answers -/

section Answers

variable {tier : MemoryTier} {rest : Nat}

/-- Storing succeeds if the end of the lifetime can be named, and is broken off otherwise. -/
theorem set_eq_ite (tier : MemoryTier) (key text : String) (lifetime : Nat) :
    tier.set key text lifetime =
      if tier.now + lifetime < Instant.limit then .value (.ok ()) else .broken := by
  rw [set]
  split
  · next namable => exact congrArg Prod.fst (Backend.set_memory_of_lt namable)
  · next ends => exact congrArg Prod.fst (Backend.set_memory_of_le (Int.not_lt.mp ends))

/-- A text is read while the moment lies before its end. -/
theorem get_eq_ok_some_iff :
    tier.get key = .ok (some text) ↔
      ∃ expiresAt, tier.texts.get? key = some ⟨text, expiresAt⟩ ∧ tier.now < expiresAt := by
  show Except.ok (tier.texts.text? key tier.now) = .ok (some text) ↔ _
  rw [Except.ok.injEq, ExpiringTexts.text?, Option.map_eq_some_iff]
  constructor
  · rintro ⟨⟨_, expiresAt⟩, seen, rfl⟩
    exact ⟨expiresAt, ExpiringTexts.find?_eq_some_iff.mp seen⟩
  · rintro ⟨expiresAt, seen⟩
    exact ⟨⟨text, expiresAt⟩, ExpiringTexts.find?_eq_some_iff.mpr seen, rfl⟩

/-- The remaining lifetime is what is missing to the end, and it is not zero. -/
theorem ttl_eq_ok_some_iff :
    tier.ttl key = .ok (some rest) ↔
      ∃ text, tier.texts.get? key = some ⟨text, tier.now + rest⟩ ∧ 0 < rest := by
  show Except.ok (tier.texts.remaining? key tier.now) = .ok (some rest) ↔ _
  rw [Except.ok.injEq, ExpiringTexts.remaining?, Option.map_eq_some_iff]
  constructor
  · rintro ⟨⟨text, expiresAt⟩, seen, rfl⟩
    obtain ⟨kept, later⟩ := ExpiringTexts.find?_eq_some_iff.mp seen
    have positive : 0 < expiresAt - tier.now := Int.sub_pos_of_lt later
    refine ⟨text, ?_, Int.pos_iff_toNat_pos.mp positive⟩
    rwa [Int.toNat_of_nonneg positive.le, add_sub_cancel]
  · rintro ⟨text, kept, positive⟩
    refine ⟨_, ExpiringTexts.find?_eq_some_iff.mpr ⟨kept, ?_⟩, ?_⟩
    · exact Int.lt_add_of_pos_right _ (Int.natCast_pos.mpr positive)
    · simp

/-- Reading answers, with a text or with none. -/
theorem get_eq_ok_none_iff :
    tier.get key = .ok none ↔ ¬ ∃ text, tier.get key = .ok (some text) := by
  show Except.ok (tier.texts.text? key tier.now) = .ok none ↔
    ¬ ∃ text, Except.ok (tier.texts.text? key tier.now) = .ok (some text)
  simp only [Except.ok.injEq]
  rw [Option.eq_none_iff_forall_ne_some, not_exists]

/-- A lifetime remains for what is read, and for nothing else. -/
theorem exists_ttl_iff :
    (∃ rest, tier.ttl key = .ok (some rest)) ↔ ∃ text, tier.get key = .ok (some text) := by
  simp only [get_eq_ok_some_iff, ttl_eq_ok_some_iff]
  constructor
  · rintro ⟨rest, text, kept, positive⟩
    exact ⟨text, _, kept, Int.lt_add_of_pos_right _ (Int.natCast_pos.mpr positive)⟩
  · rintro ⟨text, expiresAt, kept, later⟩
    obtain ⟨rest, remains⟩ := Int.eq_ofNat_of_zero_le (Int.sub_nonneg_of_le later.le)
    obtain rfl : expiresAt = tier.now + rest := sub_eq_iff_eq_add'.mp remains
    exact ⟨rest, text, kept, Int.natCast_pos.mp ((lt_add_iff_pos_right _).mp later)⟩

/-- What is counted are the keys under which something is read. -/
theorem encard_read (unique : tier.texts.IsUnique) :
    {key | ∃ text, tier.get key = .ok (some text)}.encard = tier.size := by
  rw [size, ExpiringTexts.visibleCount, ← unique.encard_keys]
  congr 1
  ext key
  simp only [Set.mem_ofPred_eq, get_eq_ok_some_iff, decide_eq_true_iff]
  constructor
  · rintro ⟨text, expiresAt, kept, later⟩
    exact ⟨_, kept, later⟩
  · rintro ⟨⟨text, expiresAt⟩, kept, later⟩
    exact ⟨text, expiresAt, kept, later⟩

end Answers

/-- A key is read exactly if something was stored last under it whose lifetime is not over. -/
theorem get_runAll_iff :
    (runAll start calls).get key = .ok (some text) ↔
      ∃ since lifetime, LastSet start (MemoryCall.completed start calls) key text since lifetime ∧
        (runAll start calls).now < since + lifetime := by
  simp only [get_eq_ok_some_iff, get?_runAll_iff]
  constructor
  · rintro ⟨_, ⟨since, lifetime, last, rfl⟩, later⟩
    exact ⟨since, lifetime, last, later⟩
  · rintro ⟨since, lifetime, last, later⟩
    exact ⟨_, ⟨since, lifetime, last, rfl⟩, later⟩

/-- **A durable tier in memory answers from the history of its completed calls.**  A key is read
exactly if the lifetime of what was stored last under it is not over; a lifetime remains for just
these keys, and it is what is missing to its end; and they are all that is counted.  What is not
seen any more is never seen again unless it is stored, whatever happens under other keys.  A call
that stores is completed exactly if the end of the lifetime can be named; it is broken off
otherwise, and then the tier is as if it had not been made. -/
theorem answers_of_history (start : Instant) (calls : List MemoryCall) :
    let tier := runAll start calls
    let history := MemoryCall.completed start calls
    tier.now = start + MemoryCall.elapsed calls ∧
    (∀ key text, tier.get key = .ok (some text) ↔
      ∃ since lifetime, LastSet start history key text since lifetime ∧
        tier.now < since + lifetime) ∧
    (∀ key, tier.get key = .ok none ↔ ¬ ∃ text, tier.get key = .ok (some text)) ∧
    (∀ key, (∃ rest, tier.ttl key = .ok (some rest)) ↔
      ∃ text, tier.get key = .ok (some text)) ∧
    (∀ key rest, tier.ttl key = .ok (some rest) ↔
      ∃ text since lifetime, LastSet start history key text since lifetime ∧
        0 < rest ∧ (rest : Int) = since + lifetime - tier.now) ∧
    {key | ∃ text, tier.get key = .ok (some text)}.encard = tier.size ∧
    (∀ key later, (∀ call ∈ later, ¬ MemoryCall.Stores key call) → tier.get key = .ok none →
      (runAll start (calls ++ later)).get key = .ok none) ∧
    (∀ key text lifetime, tier.set key text lifetime =
      if tier.now + lifetime < Instant.limit then .value (.ok ()) else .broken) ∧
    runAll start history = tier := by
  intro tier history
  refine ⟨now_runAll start calls, fun _ _ => get_runAll_iff, fun _ => get_eq_ok_none_iff,
    fun _ => exists_ttl_iff, fun key rest => ?_, encard_read (isUnique_runAll start calls), ?_,
    tier.set_eq_ite, runAll_completed start calls⟩
  · rw [ttl_eq_ok_some_iff]
    simp only [tier, get?_runAll_iff]
    constructor
    · rintro ⟨text, ⟨since, lifetime, last, ends⟩, positive⟩
      exact ⟨text, since, lifetime, last, positive, eq_sub_iff_add_eq'.mpr ends⟩
    · rintro ⟨text, since, lifetime, last, positive, remains⟩
      exact ⟨text, ⟨since, lifetime, last, eq_sub_iff_add_eq'.mp remains⟩, positive⟩
  · intro key later others unseen
    rw [get_eq_ok_none_iff] at unseen ⊢
    rintro ⟨text, read⟩
    obtain ⟨since, lifetime, last, young⟩ := get_runAll_iff.mp read
    rw [MemoryCall.completed_append] at last
    have spared := last.of_append fun call member =>
      others call (MemoryCall.mem_of_mem_completed member)
    have earlier := now_le_runAll_append start calls later
    exact unseen ⟨text, get_runAll_iff.mpr ⟨since, lifetime, spared, earlier.trans_lt young⟩⟩

/-- A text is not seen at the moment of its end, and storing under another key does not bring it
back; it is still kept, but not counted.  A call that is broken off changes nothing. -/
theorem answers_of_history_of_expired :
    let endless := Duration.seconds (2 ^ 64 - 1)
    let calls : List MemoryCall :=
      [.set "a" "x" 10, .set "b" "y" 4, .set "a" "w" endless, .pass 4]
    let later : List MemoryCall := [.set "a" "z" 1, .count]
    (∀ call ∈ later, ¬ MemoryCall.Stores "b" call) ∧
      (runAll 0 calls).get "b" = .ok none ∧ (runAll 0 (calls ++ later)).get "b" = .ok none ∧
      (runAll 0 calls).get "a" = .ok (some "x") ∧ (runAll 0 calls).ttl "a" = .ok (some 6) ∧
      {key | ∃ text, (runAll 0 calls).get key = .ok (some text)}.encard = 1 := by
  intro endless calls later
  obtain ⟨-, reads, -, -, remains, counts, gone, -⟩ := answers_of_history 0 calls
  have others : ∀ call ∈ later, ¬ MemoryCall.Stores "b" call := by
    simp [later, MemoryCall.Stores]
  have unseen : (runAll 0 calls).get "b" = .ok none := by decide +kernel
  have history : MemoryCall.completed 0 calls = [.set "a" "x" 10, .set "b" "y" 4, .pass 4] := by
    decide +kernel
  have last : LastSet 0 (MemoryCall.completed 0 calls) "a" "x" 0 10 :=
    ⟨[], _, history, rfl, by simp [MemoryCall.Spares]⟩
  have size : (runAll 0 calls).size = 1 := by decide +kernel
  refine ⟨others, unseen, gone "b" later others unseen, ?_, ?_, counts.trans (by rw [size]; rfl)⟩
  · exact (reads "a" "x").mpr ⟨0, 10, last, by decide⟩
  · exact (remains "a" 6).mpr ⟨"x", 0, 10, last, by decide, rfl⟩

/-- A text that is stored for longer than the clock can name is not read afterwards, although
nothing else has happened. -/
theorem not_read_of_endless :
    let endless := Duration.seconds (2 ^ 64 - 1)
    LastSet 0 [.set "a" "x" endless] "a" "x" 0 endless ∧
      (runAll 0 [.set "a" "x" endless]).now < 0 + endless ∧
      (fresh 0).set "a" "x" endless = .broken ∧
      (runAll 0 [.set "a" "x" endless]).get "a" = .ok none := by
  intro endless
  exact ⟨⟨[], [], rfl, rfl, by simp⟩, by decide, by decide +kernel, by decide +kernel⟩

end MemoryTier

end ChainActivity
