import ChainActivity.Proofs.Cache.Operations
import Mathlib.Data.List.Induction

/-!
# Caches that share a durable tier

Several caches, each with near entries and lifetimes of its own, keep their texts under
the same keys of one durable tier.  What one of them stores the others read and copy.

## Main definitions

* `Caches`, `Caches.runAll` — the caches after calls of any of them, in order.
* `Operation.stored?` — the slot in which an operation stores, and what it stores.
* `Caches.Traced` — whether a text was stored by some call, and may be read up to some
  moment because of that.
* `Session.Reading`, `Operation.Effect` — what a lookup answers, and what an operation
  does to the tiers.

## Main statements

* `Cache.backdated_add_le` — a copy is young no longer than the durable text is seen.
* `Caches.Sourced.call`, `Caches.sourced_runAll` — every text in a tier is traced.
* `Caches.exists_store_of_get?` — what a cache reads was stored, and by the lifetime of
  the cache that stored it, it has not expired.

## Design notes

A near entry is read until its own cache finds it too old, a durable text until it
expires.  Both moments are deadlines, and the invariant bounds them by the deadline of
one store.  Copying from the durable tier gives the copy a deadline that is not later,
whether the lifetime of the reader is shorter or longer than that of the writer; so it
does not matter through how many caches a text went.
-/

namespace ChainActivity

/-! ### Lookups over a durable tier in memory -/

namespace ExpiringTexts

variable {m : ExpiringTexts} {key : String} {now : Instant} {e : Expiring}

theorem get?_of_find? (seen : m.find? key now = some e) : m.get? key = some e :=
  (find?_eq_some_iff.mp seen).1

/-- A text that is seen has not expired. -/
theorem lt_expiresAt_of_find? (seen : m.find? key now = some e) : now < e.expiresAt :=
  (find?_eq_some_iff.mp seen).2

end ExpiringTexts

namespace Cache

/-- A copy of a text that is still kept for some time is young no longer than that, if the
moment that lies its lifetime back can be named. -/
theorem backdated_add_le {now : Instant} {lifetime remaining : Nat}
    (namable : -Instant.limit ≤ now - lifetime) :
    backdated now lifetime (some remaining) + lifetime ≤ now + remaining := by
  have named : -Instant.limit ≤ now - (lifetime - remaining : Nat) := by
    have shorter : ((lifetime - remaining : Nat) : Int) ≤ lifetime :=
      Int.ofNat_le.mpr (Nat.sub_le ..)
    exact Int.le_trans namable (Int.sub_le_sub_left shorter now)
  have since : backdated now lifetime (some remaining) = now - (lifetime - remaining : Nat) := by
    rw [backdated, Option.bind_some, Instant.before?_of_le named, Option.getD_some]
  have bound : ∀ t : Int, t - (lifetime - remaining : Nat) + lifetime ≤ t + remaining := by
    intro t
    omega
  rw [since]
  exact bound now

/-- A copy of a durable text is young no longer than the text is seen. -/
theorem backdated_add_le_expiresAt {m : ExpiringTexts} {key : String} {now : Instant}
    {lifetime : Nat} {e : Expiring} (namable : -Instant.limit ≤ now - lifetime)
    (seen : m.find? key now = some e) :
    backdated now lifetime (some (e.expiresAt - now).toNat) + lifetime ≤ e.expiresAt := by
  have unexpired : now < e.expiresAt := ExpiringTexts.lt_expiresAt_of_find? seen
  have remaining : 0 ≤ e.expiresAt - now := Int.sub_nonneg_of_le (Int.le_of_lt unexpired)
  have bound := @backdated_add_le now lifetime (e.expiresAt - now).toNat namable
  rwa [Int.toNat_of_nonneg remaining, Int.add_comm now, Int.sub_add_cancel] at bound

end Cache

namespace Session

variable {κ ρ α : Type}

/-- A session after a durable text was copied into the near tier. -/
def copied (config : CacheConfig) (s : Session κ ExpiringTexts) (slot : Slot) (e : Expiring) :
    Session κ ExpiringTexts :=
  { s with tiers :=
      ⟨s.tiers.near.insert (config.key slot) ⟨e.text, Cache.backdated s.now
          (config.lifetime slot.domain) (some (e.expiresAt - s.now).toNat)⟩,
        s.tiers.durable⟩ }

/-- A durable tier in memory keeps a text for its lifetime, or not at all. -/
theorem durable_stored_memory (config : CacheConfig) (s : Session κ ExpiringTexts) (slot : Slot)
    (text : String) :
    (s.stored config .memory slot text).tiers.durable = s.tiers.durable ∨
      (s.stored config .memory slot text).tiers.durable =
        s.tiers.durable.store (config.key slot) text (s.now + config.lifetime slot.domain) :=
  Backend.keepsAtMost_memory.set_kept _ _ _ _ _

/-- What a lookup answers, and the session that it leaves behind. -/
inductive Reading (config : CacheConfig) (codec : Codec α) (slot : Slot) (maxAge : Option Nat)
    (s : Session κ ExpiringTexts) : Option α × Session κ ExpiringTexts → Prop where
  | near {entry : LocalEntry} (present : s.near? config slot = some entry)
      (usable : Cache.isUsable s.now maxAge entry = true) :
    Reading config codec slot maxAge s (codec.decode entry.text, s)
  | copied {e : Expiring} {value : α}
      (seen : s.tiers.durable.find? (config.key slot) s.now = some e)
      (readable : codec.decode e.text = some value) :
    Reading config codec slot maxAge s (some value, s.copied config slot e)
  | missing : Reading config codec slot maxAge s (none, s)

/-- A lookup that answers nothing changes nothing. -/
theorem Reading.eq_of_none {config : CacheConfig} {codec : Codec α} {slot : Slot}
    {maxAge : Option Nat} {s t : Session κ ExpiringTexts}
    (reading : Reading config codec slot maxAge s (none, t)) : t = s := by
  generalize same : ((none, t) : Option α × Session κ ExpiringTexts) = looked at reading
  cases reading with
  | near present usable => exact (Prod.mk.inj same).2
  | copied seen readable => exact nomatch (Prod.mk.inj same).1
  | missing => exact (Prod.mk.inj same).2

/-- A durable text that is seen is copied if it can be read. -/
theorem run_fetch_of_find? {config : CacheConfig} {s : Session κ ExpiringTexts} {e : Expiring}
    (producer : Producer κ ρ) (codec : Codec α) (slot : Slot)
    (seen : s.tiers.durable.find? (config.key slot) s.now = some e) :
    (Cache.fetch config codec slot).run .memory producer s =
      match codec.decode e.text with
      | none => (none, s)
      | some value => (some value, s.copied config slot e) := by
  have text : s.tiers.durable.text? (config.key slot) s.now = some e.text := by
    rw [ExpiringTexts.text?, seen]
    rfl
  have remaining : s.tiers.durable.remaining? (config.key slot) s.now =
      some (e.expiresAt - s.now).toNat := by
    rw [ExpiringTexts.remaining?, seen]
    rfl
  change (Program.bind _ _).run .memory producer s = _
  rw [Program.run_bind]
  simp only [Program.access, Program.run, StorageStep.perform, Backend.memory, text]
  cases codec.decode e.text with
  | none => rfl
  | some value =>
    rw [copied, ← remaining]
    rfl

/-- Looking into both tiers: what is answered, and the session that is left behind. -/
def look (config : CacheConfig) (codec : Codec α) (slot : Slot) (maxAge : Option Nat)
    (s : Session κ ExpiringTexts) : Option α × Session κ ExpiringTexts :=
  match (s.near? config slot).filter (Cache.isUsable s.now maxAge) with
  | some entry => (codec.decode entry.text, s)
  | none =>
    match s.tiers.durable.find? (config.key slot) s.now with
    | none => (none, s)
    | some e =>
      match codec.decode e.text with
      | none => (none, s)
      | some value => (some value, s.copied config slot e)

/-- A lookup over a durable tier in memory looks into both tiers. -/
theorem run_lookup (config : CacheConfig) (producer : Producer κ ρ) (codec : Codec α)
    (slot : Slot) (maxAge : Option Nat) (s : Session κ ExpiringTexts) :
    (Cache.lookup config codec slot maxAge).run .memory producer s =
      s.look config codec slot maxAge := by
  rw [look]
  rcases young : (s.near? config slot).filter (Cache.isUsable s.now maxAge) with _ | entry
  · have unusable : ∀ entry, s.near? config slot = some entry →
        Cache.isUsable s.now maxAge entry = false := by
      intro entry present
      rw [present, Option.filter_some] at young
      split at young
      · cases young
      · next old => exact Bool.eq_false_iff.mpr old
    rw [Cache.run_lookup_of_not_usable config .memory producer codec slot unusable]
    rcases seen : s.tiers.durable.find? (config.key slot) s.now with _ | e
    · refine Cache.run_fetch_of_not_found config .memory producer codec slot fun text found => ?_
      have found : s.tiers.durable.text? (config.key slot) s.now = some text := Except.ok.inj found
      rw [ExpiringTexts.text?, seen] at found
      cases found
    · exact run_fetch_of_find? producer codec slot seen
  · obtain ⟨present, usable⟩ := Option.filter_eq_some_iff.mp young
    exact Cache.run_lookup_of_usable config .memory producer codec slot present usable

/-- A lookup answers with what a tier has. -/
theorem reading_look (config : CacheConfig) (codec : Codec α) (slot : Slot)
    (maxAge : Option Nat) (s : Session κ ExpiringTexts) :
    Reading config codec slot maxAge s (s.look config codec slot maxAge) := by
  unfold look
  split
  · next young =>
    obtain ⟨present, usable⟩ := Option.filter_eq_some_iff.mp young
    exact .near present usable
  · split
    · exact .missing
    · next seen =>
      split
      · exact .missing
      · next readable => exact .copied seen readable

/-- Reading a slot looks into both tiers, and uses near entries within their lifetime. -/
theorem get?_eq_look (config : CacheConfig) (codec : Codec α) (slot : Slot)
    (s : Session Slot ExpiringTexts) :
    s.get? config .memory codec slot =
      (s.look config codec slot (some (config.lifetime slot.domain))).1 :=
  congrArg Prod.fst (run_lookup config _ codec slot _ s)

end Session

/-! ### Effects of operations -/

/-- What is stored for a value, if it can be written. -/
def Stored.of? {α : Type} (codec : Codec α) (value : α) (since : Instant) : Option Stored :=
  match written : codec.encode value with
  | .error _ => none
  | .ok text => some ⟨codec, value, text, written, since⟩

theorem Stored.of?_eq_some {α : Type} {codec : Codec α} {value : α} {text : String}
    (written : codec.encode value = .ok text) (since : Instant) :
    of? codec value since = some ⟨codec, value, text, written, since⟩ := by
  rw [of?]
  split
  · next reason refused => cases refused.symm.trans written
  · next other same =>
    obtain rfl : other = text := Except.ok.inj (same.symm.trans written)
    rfl

theorem Stored.since_of_of? {α : Type} {codec : Codec α} {value : α} {since : Instant}
    {v : Stored} (stores : of? codec value since = some v) : v.since = since := by
  rw [of?] at stores
  split at stores
  · exact nomatch stores
  · obtain rfl := Option.some.inj stores
    rfl

namespace Operation

variable {config : CacheConfig} {s : Session Slot ExpiringTexts} {operation : Operation}

/-- The slot in which an operation stores, and what it stores.  A produced value is
stored where there was nothing to read. -/
def stored? (config : CacheConfig) (s : Session Slot ExpiringTexts) :
    Operation → Option (Slot × Stored)
  | set codec slot value => (Stored.of? codec value s.now).map fun v => (slot, v)
  | getOrProduce codec slot reply =>
    if (s.get? config .memory codec slot).isSome then none
    else (reply.toOption.bind fun value => Stored.of? codec value s.now).map fun v => (slot, v)
  | get _ _ | peek _ _ | clear | pass _ => none

/-- An operation stores at the moment at which it is carried out. -/
theorem since_of_stored? {slot : Slot} {v : Stored}
    (stores : operation.stored? config s = some (slot, v)) : v.since = s.now := by
  cases operation with
  | set codec t value =>
    obtain ⟨u, of, same⟩ := Option.map_eq_some_iff.mp stores
    obtain rfl := (Prod.mk.inj same).2
    exact Stored.since_of_of? of
  | getOrProduce codec t reply =>
    rw [stored?] at stores
    split at stores
    · exact nomatch stores
    · obtain ⟨u, of, same⟩ := Option.map_eq_some_iff.mp stores
      obtain ⟨value, -, of⟩ := Option.bind_eq_some_iff.mp of
      obtain rfl := (Prod.mk.inj same).2
      exact Stored.since_of_of? of
  | get codec t => exact nomatch stores
  | peek codec t => exact nomatch stores
  | clear => exact nomatch stores
  | pass duration => exact nomatch stores

/-- What an operation does to the tiers. -/
inductive Effect (config : CacheConfig) (s : Session Slot ExpiringTexts) (operation : Operation) :
    Instant → Tiers ExpiringTexts → Prop where
  | unchanged : Effect config s operation s.now s.tiers
  | passed (duration : Nat) : Effect config s operation (s.now + duration) s.tiers
  | copied {slot : Slot} {e : Expiring}
      (seen : s.tiers.durable.find? (config.key slot) s.now = some e) :
    Effect config s operation s.now (s.copied config slot e).tiers
  | stored {slot : Slot} {v : Stored} (stores : operation.stored? config s = some (slot, v)) :
    Effect config s operation s.now (s.stored config .memory slot v.text).tiers
  | cleared : Effect config s operation s.now ⟨s.tiers.near, .empty⟩

/-- No operation turns time back. -/
theorem Effect.now_le {after : Instant} {tiers : Tiers ExpiringTexts}
    (effect : Effect config s operation after tiers) : s.now ≤ after := by
  cases effect with
  | passed duration => exact Int.le_add_of_nonneg_right (Int.natCast_nonneg _)
  | unchanged => exact Int.le_refl _
  | copied seen => exact Int.le_refl _
  | stored stores => exact Int.le_refl _
  | cleared => exact Int.le_refl _

/-- Reading stores nothing; at most a durable text is copied. -/
theorem Effect.of_reading {α : Type} {codec : Codec α} {slot : Slot} {maxAge : Option Nat}
    {answer : Option α × Session Slot ExpiringTexts}
    (reading : s.Reading config codec slot maxAge answer) :
    Effect config s operation answer.2.now answer.2.tiers := by
  cases reading with
  | near present usable => exact .unchanged
  | copied seen readable => exact .copied seen
  | missing => exact .unchanged

/-- Storing a value stores its text, if it has one, also where the call is broken off. -/
theorem Effect.of_set {ρ α : Type} {codec : Codec α} {slot : Slot} {value : α}
    (producer : Producer Slot ρ) {t : Session Slot ExpiringTexts} (now : t.now = s.now)
    (tiers : t.tiers = s.tiers)
    (stores : operation.stored? config s =
      (Stored.of? codec value s.now).map fun v => (slot, v)) :
    Effect config s operation ((Cache.set config codec slot value).run .memory producer t).2.now
      ((Cache.set config codec slot value).run .memory producer t).2.tiers := by
  rcases written : codec.encode value with reason | text
  · rw [Cache.run_set_of_error config .memory producer codec slot value t written, now, tiers]
    exact .unchanged
  · have stored : (t.stored config .memory slot text).tiers =
        (s.stored config .memory slot text).tiers := by
      rw [Session.stored, Session.stored, now, tiers]
    rw [Stored.of?_eq_some written] at stores
    rw [Cache.run_set_of_encode config .memory producer codec slot value t written]
    have effect := Effect.stored stores
    rwa [← stored, ← now] at effect

/-- Producing what is missing stores what was produced, or copies what was found. -/
theorem Effect.of_getOrProduce {α ε : Type} (codec : Codec α) (slot : Slot) (reply : Except ε α) :
    let after := (Cache.getOrProduce config codec slot slot).run .memory (.instant reply) s
    Effect config s (.getOrProduce codec slot reply) after.2.now after.2.tiers := by
  intro after
  have looked := Session.run_lookup config (.instant reply) codec slot
    (some (config.lifetime slot.domain)) s
  rcases look : s.look config codec slot (some (config.lifetime slot.domain)) with ⟨answer, t⟩
  have reading := s.reading_look config codec slot (some (config.lifetime slot.domain))
  rw [look] at looked reading
  cases answer with
  | some value =>
    have ran : after = _ := Cache.run_getOrProduce_of_some config .memory (.instant reply) codec
      slot slot s (congrArg Prod.fst looked)
    rw [ran, Cache.get, looked]
    exact .of_reading reading
  | none =>
    have ran : after = _ := Cache.run_getOrProduce_of_none config .memory (.instant reply) codec
      slot slot s (congrArg Prod.fst looked)
    obtain rfl : t = s := reading.eq_of_none
    rw [Cache.get, looked] at ran
    have instantly : (t.producing (.instant reply) slot).now = t.now := Int.add_zero _
    cases reply with
    | error e =>
      have effect : Effect config t (.getOrProduce codec slot (.error e : Except ε α)) t.now
        t.tiers := .unchanged
      rw [ran]
      rwa [← instantly] at effect
    | ok value =>
      rw [ran]
      refine .of_set (.instant (.ok value : Except ε α)) instantly rfl ?_
      rw [stored?, Session.get?_eq_look, look]
      rfl

/-- An operation has no other effects. -/
theorem effect_run (config : CacheConfig) (s : Session Slot ExpiringTexts)
    (operation : Operation) :
    Effect config s operation (operation.run config .memory s).now
      (operation.run config .memory s).tiers := by
  cases operation with
  | set codec slot value => exact .of_set _ rfl rfl rfl
  | get codec slot =>
    rw [run, Cache.get, Session.run_lookup]
    exact .of_reading (s.reading_look config codec slot _)
  | peek codec slot =>
    rw [run, Cache.peek, Session.run_lookup]
    exact .of_reading (s.reading_look config codec slot _)
  | getOrProduce codec slot reply => exact .of_getOrProduce codec slot reply
  | clear => exact .cleared
  | pass duration => exact .passed duration

end Operation

/-! ### Several caches -/

/-- A key depends on the name that keys begin with and on the slot. -/
theorem CacheConfig.key_congr {c d : CacheConfig} (spaces : c.space = d.space) (slot : Slot) :
    c.key slot = d.key slot := by
  rw [key, key, spaces]

/-- Caches that share a durable tier in memory. -/
structure Caches where
  now : Instant
  /-- The near entries of each cache. -/
  near : Nat → Keyed LocalEntry
  durable : ExpiringTexts

namespace Caches

/-- Nothing has been called yet, and all tiers are empty. -/
def fresh (now : Instant) : Caches := ⟨now, fun _ => .empty, .empty⟩

/-- What one cache sees. -/
def session (f : Caches) (i : Nat) : Session Slot ExpiringTexts :=
  ⟨f.now, ⟨f.near i, f.durable⟩, []⟩

/-- The caches after a session of one of them. -/
def resume (f : Caches) (i : Nat) (s : Session Slot ExpiringTexts) : Caches :=
  ⟨s.now, fun j => if j = i then s.tiers.near else f.near j, s.tiers.durable⟩

/-- The cache of the session has its near entries. -/
theorem near_resume_self (f : Caches) (i : Nat) (s : Session Slot ExpiringTexts) :
    (f.resume i s).near i = s.tiers.near :=
  if_pos rfl

/-- No other cache is touched. -/
theorem near_resume_of_ne (f : Caches) {i j : Nat} (other : j ≠ i)
    (s : Session Slot ExpiringTexts) : (f.resume i s).near j = f.near j :=
  if_neg other

variable (configs : Nat → CacheConfig)

/-- What an operation of one cache makes of the caches. -/
def call (f : Caches) (c : Nat × Operation) : Caches :=
  f.resume c.1 (c.2.run (configs c.1) .memory (f.session c.1))

/-- What operations of any caches make of fresh ones, one after the other. -/
def runAll (now : Instant) (calls : List (Nat × Operation)) : Caches :=
  calls.foldl (call configs) (.fresh now)

/-- What reading a slot answers in one cache. -/
def get? {α : Type} (f : Caches) (i : Nat) (codec : Codec α) (slot : Slot) : Option α :=
  (f.session i).get? (configs i) .memory codec slot

theorem runAll_concat (now : Instant) (calls : List (Nat × Operation)) (c : Nat × Operation) :
    runAll configs now (calls ++ [c]) = (runAll configs now calls).call configs c := by
  rw [runAll, List.foldl_append]
  rfl

/-- Time does not run backwards. -/
theorem now_le_call (f : Caches) (c : Nat × Operation) : f.now ≤ (f.call configs c).now :=
  (Operation.effect_run (configs c.1) (f.session c.1) c.2).now_le

theorem le_now_runAll (now : Instant) (calls : List (Nat × Operation)) :
    now ≤ (runAll configs now calls).now := by
  induction calls using List.reverseRecOn with
  | nil => exact Int.le_refl now
  | append_singleton calls c ih =>
    rw [runAll_concat]
    exact Int.le_trans ih (now_le_call configs _ c)

/-- Whether a text was stored in a slot by some call, and may be read up to some moment
by the lifetime of the cache that stored it. -/
def Traced (now : Instant) (calls : List (Nat × Operation)) (slot : Slot) (text : String)
    (deadline : Instant) : Prop :=
  ∃ before i operation after v, calls = before ++ (i, operation) :: after ∧
    operation.stored? (configs i) ((runAll configs now before).session i) = some (slot, v) ∧
    v.text = text ∧ v.since ≤ (runAll configs now calls).now ∧
    deadline ≤ v.since + (configs i).lifetime slot.domain

variable {configs} {now : Instant} {calls : List (Nat × Operation)} {slot : Slot} {text : String}
  {deadline : Instant}

/-- An earlier deadline is met, too. -/
theorem Traced.mono (traced : Traced configs now calls slot text deadline) {sooner : Instant}
    (bound : sooner ≤ deadline) : Traced configs now calls slot text sooner := by
  obtain ⟨before, i, operation, after, v, split, stores, same, past, limit⟩ := traced
  exact ⟨before, i, operation, after, v, split, stores, same, past, Int.le_trans bound limit⟩

/-- A text stays traced when more is called. -/
theorem Traced.concat (traced : Traced configs now calls slot text deadline)
    (c : Nat × Operation) : Traced configs now (calls ++ [c]) slot text deadline := by
  obtain ⟨before, i, operation, after, v, rfl, stores, same, past, limit⟩ := traced
  refine ⟨before, i, operation, after ++ [c], v, by simp, stores, same, ?_, limit⟩
  rw [runAll_concat]
  exact Int.le_trans past (now_le_call configs _ c)

/-- A text that was just stored is traced for the lifetime of its cache. -/
theorem traced_of_stored? {i : Nat} {operation : Operation} {v : Stored}
    (stores : operation.stored? (configs i) ((runAll configs now calls).session i) =
      some (slot, v)) :
    Traced configs now (calls ++ [(i, operation)]) slot v.text
      ((runAll configs now calls).now + (configs i).lifetime slot.domain) := by
  have since : v.since = (runAll configs now calls).now := Operation.since_of_stored? stores
  refine ⟨calls, i, operation, [], v, rfl, stores, rfl, ?_,
    Int.le_of_eq (congrArg (· + _) since.symm)⟩
  rw [since, runAll_concat]
  exact now_le_call configs _ _

/-- Whether every text in a tier is traced up to the moment until which it is read
there. -/
structure Sourced (configs : Nat → CacheConfig) (now : Instant) (calls : List (Nat × Operation))
    (f : Caches) : Prop where
  near : ∀ i slot entry, (f.near i).get? ((configs i).key slot) = some entry →
    Traced configs now calls slot entry.text (entry.storedAt + (configs i).lifetime slot.domain)
  durable : ∀ i slot e, f.durable.get? ((configs i).key slot) = some e →
    Traced configs now calls slot e.text e.expiresAt

section Steps

variable {i : Nat} {operation : Operation} {after : Instant} {tiers : Tiers ExpiringTexts}
  (sourced : Sourced configs now calls (runAll configs now calls))
  (effect : operation.Effect (configs i) ((runAll configs now calls).session i) after tiers)
include sourced effect

/-- The near entries of the cache that is called stay traced. -/
theorem Sourced.near_of_effect (namable : ∀ d, -Instant.limit ≤ now - (configs i).lifetime d)
    {entry : LocalEntry} (present : tiers.near.get? ((configs i).key slot) = some entry) :
    Traced configs now (calls ++ [(i, operation)]) slot entry.text
      (entry.storedAt + (configs i).lifetime slot.domain) := by
  have old : ((runAll configs now calls).near i).get? ((configs i).key slot) = some entry →
      Traced configs now (calls ++ [(i, operation)]) slot entry.text
        (entry.storedAt + (configs i).lifetime slot.domain) :=
    fun found => (sourced.near i slot entry found).concat _
  cases effect with
  | unchanged => exact old present
  | passed duration => exact old present
  | cleared => exact old present
  | @copied t e seen =>
    rw [Session.copied, Keyed.get?_insert] at present
    split at present
    · next same =>
      obtain rfl := (configs i).key_injective same
      obtain rfl := Option.some.inj present
      have begun := Int.sub_le_sub_right (le_now_runAll configs now calls)
        ((configs i).lifetime t.domain)
      exact ((sourced.durable i t e (ExpiringTexts.get?_of_find? seen)).concat _).mono
        (Cache.backdated_add_le_expiresAt (Int.le_trans (namable t.domain) begun) seen)
    · exact old present
  | @stored t v stores =>
    rw [Session.stored, Keyed.get?_insert] at present
    split at present
    · next same =>
      obtain rfl := (configs i).key_injective same
      obtain rfl := Option.some.inj present
      exact traced_of_stored? stores
    · exact old present

/-- So do the durable texts. -/
theorem Sourced.durable_of_effect {e : Expiring}
    (present : tiers.durable.get? ((configs i).key slot) = some e) :
    Traced configs now (calls ++ [(i, operation)]) slot e.text e.expiresAt := by
  have old : (runAll configs now calls).durable.get? ((configs i).key slot) = some e →
      Traced configs now (calls ++ [(i, operation)]) slot e.text e.expiresAt :=
    fun found => (sourced.durable i slot e found).concat _
  cases effect with
  | unchanged => exact old present
  | passed duration => exact old present
  | copied seen => exact old present
  | cleared => exact nomatch present
  | @stored t v stores =>
    rcases Session.durable_stored_memory (configs i) ((runAll configs now calls).session i) t
      v.text with unchanged | kept
    · rw [unchanged] at present
      exact old present
    · rw [kept, ExpiringTexts.store, Keyed.get?_insert] at present
      split at present
      · next same =>
        obtain rfl := (configs i).key_injective same
        obtain rfl := Option.some.inj present
        exact traced_of_stored? stores
      · exact old present

end Steps

/-- One operation of any cache keeps every text traced. -/
theorem Sourced.call (shared : ∀ i j, (configs i).space = (configs j).space)
    (namable : ∀ i d, -Instant.limit ≤ now - (configs i).lifetime d)
    (sourced : Sourced configs now calls (runAll configs now calls)) (c : Nat × Operation) :
    Sourced configs now (calls ++ [c]) (runAll configs now (calls ++ [c])) := by
  rw [runAll_concat]
  have effect := Operation.effect_run (configs c.1) ((runAll configs now calls).session c.1) c.2
  constructor
  · intro j slot entry present
    by_cases same : j = c.1
    · subst same
      rw [Caches.call, near_resume_self] at present
      exact sourced.near_of_effect effect (namable c.1) present
    · rw [Caches.call, near_resume_of_ne _ same] at present
      exact (sourced.near j slot entry present).concat c
  · intro j slot e present
    rw [CacheConfig.key_congr (shared j c.1)] at present
    exact sourced.durable_of_effect effect present

/-- Whatever is called, every text in a tier is traced. -/
theorem sourced_runAll (shared : ∀ i j, (configs i).space = (configs j).space)
    (namable : ∀ i d, -Instant.limit ≤ now - (configs i).lifetime d)
    (calls : List (Nat × Operation)) :
    Sourced configs now calls (runAll configs now calls) := by
  induction calls using List.reverseRecOn with
  | nil => exact ⟨fun _ _ _ found => (nomatch found), fun _ _ _ found => (nomatch found)⟩
  | append_singleton calls c sourced => exact sourced.call shared namable c

/-- What a cache reads was stored in the slot by some cache, no later than now, and the
lifetime that the slot has in that cache is not over.  This is so after any calls of any
caches with the same keys, if the moments that lie a lifetime back can be named from the
beginning on. -/
theorem exists_store_of_get? {α : Type} (shared : ∀ i j, (configs i).space = (configs j).space)
    (namable : ∀ i d, -Instant.limit ≤ now - (configs i).lifetime d)
    (calls : List (Nat × Operation)) (i : Nat) (codec : Codec α) (slot : Slot) (value : α)
    (read : (runAll configs now calls).get? configs i codec slot = some value) :
    ∃ before j operation after v, calls = before ++ (j, operation) :: after ∧
      operation.stored? (configs j) ((runAll configs now before).session j) = some (slot, v) ∧
      codec.decode v.text = some value ∧
      (∀ w : α, HEq v.value w → codec.decode v.text = some w → value = w) ∧
      v.since ≤ (runAll configs now calls).now ∧
      (runAll configs now calls).now < v.since + (configs j).lifetime slot.domain := by
  have sourced := sourced_runAll shared namable calls
  have traced : ∃ text deadline, Traced configs now calls slot text deadline ∧
      codec.decode text = some value ∧ (runAll configs now calls).now < deadline := by
    have reading := ((runAll configs now calls).session i).reading_look (configs i) codec slot
      (some ((configs i).lifetime slot.domain))
    rw [get?, Session.get?_eq_look] at read
    generalize ((runAll configs now calls).session i).look (configs i) codec slot
      (some ((configs i).lifetime slot.domain)) = looked at read reading
    cases reading with
    | near present usable =>
      exact ⟨_, _, sourced.near i slot _ present, read,
        Int.lt_add_of_sub_left_lt (of_decide_eq_true usable)⟩
    | copied seen readable =>
      obtain rfl := Option.some.inj read
      exact ⟨_, _, sourced.durable i slot _ (ExpiringTexts.get?_of_find? seen), readable,
        ExpiringTexts.lt_expiresAt_of_find? seen⟩
    | missing => exact nomatch read
  obtain ⟨text, deadline, ⟨before, j, operation, after, v, split, stores, rfl, past, limit⟩,
    readable, young⟩ := traced
  refine ⟨before, j, operation, after, v, split, stores, readable, ?_, past,
    Int.lt_of_lt_of_le young limit⟩
  intro w same readBack
  exact Option.some.inj (readable.symm.trans readBack)

/-- Three caches in which economics live for a hundred seconds, for ten times as long, and
for less than a third of it. -/
def ofThreeLifetimes : Nat → CacheConfig
  | 0 => CacheConfig.plain.withPolicy .economics (.ofSeconds 100 false)
  | 1 => CacheConfig.plain.withPolicy .economics (.ofSeconds 1000 false)
  | _ => CacheConfig.plain.withPolicy .economics (.ofSeconds 30 false)

/-- The second cache copies what the first has stored, and still reads it in the last
nanosecond of the first lifetime. -/
theorem exists_store_of_get?_copied :
    let texts : Codec String := ⟨.ok, some⟩
    let slot : Slot := ⟨.economics, none⟩
    let calls : List (Nat × Operation) :=
      [(0, .set texts slot "18"), (0, .pass (Duration.seconds 20)), (1, .get texts slot),
        (0, .pass (Duration.seconds 80 - 1))]
    let caches := runAll ofThreeLifetimes 0 calls
    caches.get? ofThreeLifetimes 1 texts slot = some "18" ∧
      ∃ before j operation after v, calls = before ++ (j, operation) :: after ∧
        operation.stored? (ofThreeLifetimes j)
          ((runAll ofThreeLifetimes 0 before).session j) = some (slot, v) ∧
        texts.decode v.text = some "18" ∧
        (∀ w : String, HEq v.value w → texts.decode v.text = some w → "18" = w) ∧
        v.since ≤ caches.now ∧
        caches.now < v.since + (ofThreeLifetimes j).lifetime slot.domain := by
  intro texts slot calls caches
  have shared : ∀ i j, (ofThreeLifetimes i).space = (ofThreeLifetimes j).space := by
    have plain : ∀ i, (ofThreeLifetimes i).space = CacheConfig.standardSpace := by
      intro i
      rcases i with _ | _ | i <;> rfl
    exact fun i j => (plain i).trans (plain j).symm
  have namable : ∀ i d, -Instant.limit ≤ (0 : Instant) - (ofThreeLifetimes i).lifetime d := by
    intro i d
    rcases i with _ | _ | i
    · cases d <;> decide
    · cases d <;> decide
    · change -Instant.limit ≤
        (0 : Instant) - (CacheConfig.plain.withPolicy .economics (.ofSeconds 30 false)).lifetime d
      cases d <;> decide
  have read : caches.get? ofThreeLifetimes 1 texts slot = some "18" := by decide +kernel
  exact ⟨read, exists_store_of_get? shared namable calls 1 texts slot "18" read⟩

/-- A nanosecond later it is gone, although the second cache would keep it longer. -/
example : (runAll ofThreeLifetimes 0 [(0, .set ⟨.ok, some⟩ ⟨.economics, none⟩ "18"),
      (0, .pass (Duration.seconds 20)),
      (1, .get ⟨.ok, (some : String → Option String)⟩ ⟨.economics, none⟩),
      (0, .pass (Duration.seconds 80))]).get? ofThreeLifetimes 1 ⟨.ok, some⟩ ⟨.economics, none⟩ =
    (none : Option String) := by decide +kernel

end Caches

end ChainActivity
