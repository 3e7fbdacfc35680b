import ChainActivity.Proofs.Cache.Operations
import Mathlib.Data.List.Induction

/-!
# Caches with keys of their own

Several caches may share a durable tier under different spaces, the names that their keys
begin with.  What one of them reads was stored under its own space, as long as no space is
a key of a cache of another space.

## Main definitions

* `CacheConfig.Apart` — whether two spaces differ and neither is a key under the other.
* `Backend.KeepsTexts` — the law of a durable tier that keeps no more than one in memory
  and that asking changes in nothing.
* `Backend.Obeys`, `Session.Holds` — what tiers may have under which keys, as an invariant.
* `CacheGroup`, `CacheGroup.runAll` — caches over one durable tier after calls of any of
  them, in order.
* `Operation.storedText?` — the slot in which an operation stores, and the text.
* `CacheGroup.Traced` — whether a text was stored under a key by some call.

## Main statements

* `CacheConfig.key_eq_key_cases`, `CacheConfig.apart_iff` — two caches have a key in common
  exactly if they have the same space or the space of one is a key of the other.
* `CacheGroup.traced_runAll` — every text in a tier is traced.
* `CacheGroup.read_own_space` — what a cache reads or peeks at was stored in that slot under
  its own space.
* `CacheGroup.read_foreign_space` — a cache that reads what was stored under another space.

## Design notes

A key joins its parts with colons, and the space may contain colons itself.  Only the name
of a domain is known to contain none, so a colon inside the longer one of two spaces can
stand for the one behind the shorter space.  The longer space is then a key of the other
cache, and this is the only way in which keys can meet.
-/

namespace ChainActivity

/-! ### Keys under different spaces -/

namespace Slot

/-- Cutting a slot at any colon leaves a slot in front. -/
theorem exists_of_append (t : Slot) {front rest : List Char}
    (cut : t.domain.name.toList ++ t.suffix = front ++ ':' :: rest) :
    ∃ u : Slot, front = u.domain.name.toList ++ u.suffix := by
  rcases List.append_eq_append_iff.mp cut with ⟨b, inName, behind⟩ | ⟨b, name, inner⟩
  · -- the colon stands behind the name
    rcases b with _ | ⟨c, b⟩
    · exact ⟨⟨t.domain, none⟩, inName⟩
    · rcases part : t.part with _ | p
      · rw [suffix, part] at behind
        cases behind
      · rw [suffix, part] at behind
        obtain rfl : ':' = c := (List.cons.inj behind).1
        refine ⟨⟨t.domain, some (String.ofList b)⟩, ?_⟩
        simp [inName, suffix]
  · rcases b with _ | ⟨c, b⟩
    · exact ⟨⟨t.domain, none⟩, by rw [suffix, name, List.append_nil, List.append_nil]⟩
    · obtain rfl : ':' = c := (List.cons.inj inner).1
      have unmarked := Domain.isUnmarked_of_mem_name t.domain ':' (by simp [name])
      exact absurd rfl (of_decide_eq_true unmarked)

end Slot

namespace CacheConfig

/-- Whether two spaces differ and neither of them is a key under the other. -/
structure Apart (c d : CacheConfig) : Prop where
  ne : c.space ≠ d.space
  left : ∀ slot, c.space ≠ d.key slot
  right : ∀ slot, d.space ≠ c.key slot

variable {c d : CacheConfig}

/-- A longer space with a key in common is a key itself. -/
theorem exists_key_of_append {s t : Slot} {b : List Char}
    (longer : d.space.toList = c.space.toList ++ b)
    (behind : ':' :: (s.domain.name.toList ++ s.suffix) =
      b ++ ':' :: (t.domain.name.toList ++ t.suffix)) :
    (c.space = d.space ∧ s = t) ∨ ∃ u, d.space = c.key u := by
  rcases b with _ | ⟨x, b⟩
  · have same : c.space = d.space := String.toList_inj.mp (by rw [longer, List.append_nil])
    have keys : c.key s = c.key t := by
      rw [← String.toList_inj, toList_key, toList_key, behind, List.nil_append]
    exact .inl ⟨same, c.key_injective keys⟩
  · obtain ⟨rfl, cut⟩ := List.cons.inj behind
    obtain ⟨u, rfl⟩ := s.exists_of_append cut
    refine .inr ⟨u, String.toList_inj.mp ?_⟩
    rw [longer, toList_key]

/-- A common key belongs to one slot of one space, or one of the spaces is a key under the
other. -/
theorem key_eq_key_cases {s t : Slot} (same : c.key s = d.key t) :
    (c.space = d.space ∧ s = t) ∨ (∃ u, c.space = d.key u) ∨ ∃ u, d.space = c.key u := by
  have characters : c.space.toList ++ ':' :: (s.domain.name.toList ++ s.suffix) =
      d.space.toList ++ ':' :: (t.domain.name.toList ++ t.suffix) := by
    rw [← toList_key, ← toList_key, same]
  rcases List.append_eq_append_iff.mp characters with ⟨b, longer, behind⟩ | ⟨b, longer, behind⟩
  · rcases exists_key_of_append longer behind with equal | key
    · exact .inl equal
    · exact .inr (.inr key)
  · rcases exists_key_of_append longer behind with ⟨spaces, slots⟩ | key
    · exact .inl ⟨spaces.symm, slots.symm⟩
    · exact .inr (.inl key)

/-- If a space is a key under another one, then so are all keys under it. -/
theorem exists_key_of_space_eq_key {u : Slot} (inner : c.space = d.key u) (s : Slot) :
    ∃ t, c.key s = d.key t := by
  obtain ⟨domain, part⟩ := u
  let behind := s.domain.name.toList ++ s.suffix
  cases part with
  | none =>
    refine ⟨⟨domain, some (String.ofList behind)⟩, String.toList_inj.mp ?_⟩
    simp [toList_key, inner, Slot.suffix, behind]
  | some p =>
    refine ⟨⟨domain, some (String.ofList (p.toList ++ ':' :: behind))⟩, String.toList_inj.mp ?_⟩
    simp [toList_key, inner, Slot.suffix, behind]

/-- Two caches have no key in common exactly if they are apart. -/
theorem apart_iff : c.Apart d ↔ ∀ s t, c.key s ≠ d.key t := by
  constructor
  · intro apart s t same
    rcases key_eq_key_cases same with ⟨spaces, -⟩ | ⟨u, inner⟩ | ⟨u, inner⟩
    · exact apart.ne spaces
    · exact apart.left u inner
    · exact apart.right u inner
  · intro different
    refine ⟨fun spaces => ?_, fun u inner => ?_, fun u inner => ?_⟩
    · let slot : Slot := ⟨.nodes, none⟩
      exact different slot slot (by rw [key, key, spaces])
    · obtain ⟨t, same⟩ := exists_key_of_space_eq_key inner ⟨.nodes, none⟩
      exact different _ t same
    · obtain ⟨t, same⟩ := exists_key_of_space_eq_key inner ⟨.nodes, none⟩
      exact different t _ same.symm

/-- Different spaces without a colon are apart. -/
theorem apart_of_unmarked (ne : c.space ≠ d.space) (left : ':' ∉ c.space.toList)
    (right : ':' ∉ d.space.toList) : c.Apart d where
  ne := ne
  left slot inner := left (by simp [inner, toList_key])
  right slot inner := right (by simp [inner, toList_key])

end CacheConfig

/-! ### Durable tiers -/

/-- Whether the durable tier keeps and answers nothing that a tier in memory would not, and
is not changed by asking for a lifetime. -/
structure Backend.KeepsTexts {σ : Type} (b : Backend σ) (kept : σ → ExpiringTexts) : Prop
    extends b.KeepsAtMost kept where
  ttl_kept : ∀ key now s, kept (b.ttl key now s).2 = kept s

namespace Backend

theorem keepsTexts_memory : memory.KeepsTexts id where
  toKeepsAtMost := keepsAtMost_memory
  ttl_kept _ _ _ := rfl

/-- Failing calls do not break the law. -/
theorem KeepsTexts.unreliable {σ : Type} {b : Backend σ} {kept : σ → ExpiringTexts}
    (law : b.KeepsTexts kept) (failure : Nat → Option CacheError) :
    (b.unreliable failure).KeepsTexts fun s => kept s.1 where
  toKeepsAtMost := law.toKeepsAtMost.unreliable failure
  ttl_kept key now s := by
    rcases attempt_cases failure .error (b.ttl key now) s with ⟨-, -, same⟩ | ⟨-, called⟩
    · exact congrArg kept same
    · exact (congrArg kept called).trans (law.ttl_kept key now s.1)

end Backend

/-! ### Texts under keys -/

/-- Whether every text in a tier is one that may stand under its key. -/
def ExpiringTexts.Obey (m : ExpiringTexts) (may : (key text : String) → Prop) : Prop :=
  ∀ key e, m.get? key = some e → may key e.text

/-- Whether a durable tier answers with texts only that may stand under their keys, as long as
others are not stored in it.  Its states are sound before and after every call. -/
structure Backend.Obeys {σ : Type} (b : Backend σ) (may : (key text : String) → Prop)
    (sound : σ → Prop) : Prop where
  get_answer : ∀ key now s text, sound s → (b.get key now s).1 = .ok (some text) → may key text
  get_sound : ∀ key now s, sound s → sound (b.get key now s).2
  set_sound : ∀ key text lifetime now s, sound s → may key text →
    sound (b.set key text lifetime now s).2
  ttl_sound : ∀ key now s, sound s → sound (b.ttl key now s).2
  flush_sound : ∀ now s, sound s → sound (b.flush now s).2

/-- A durable tier that keeps no more than one in memory does so. -/
theorem Backend.KeepsTexts.obeys {σ : Type} {b : Backend σ} {kept : σ → ExpiringTexts}
    (law : b.KeepsTexts kept) (may : String → String → Prop) :
    b.Obeys may fun s => (kept s).Obey may where
  get_answer key now s text sound answer := by
    obtain ⟨e, seen, rfl⟩ := Option.map_eq_some_iff.mp (law.get_answer _ _ _ _ answer)
    exact sound key e (ExpiringTexts.find?_eq_some_iff.mp seen).1
  get_sound key now s sound := (law.get_kept key now s).symm ▸ sound
  set_sound key text lifetime now s sound allowed := by
    rcases law.set_kept key text lifetime now s with unchanged | stored
    · exact unchanged.symm ▸ sound
    · intro other e found
      rw [stored, ExpiringTexts.store, Keyed.get?_insert] at found
      split at found
      · next same =>
        obtain rfl := Option.some.inj found
        exact same ▸ allowed
      · exact sound other e found
  ttl_sound key now s sound := (law.ttl_kept key now s).symm ▸ sound
  flush_sound now s sound := by
    rcases law.flush_kept now s with unchanged | emptied
    · exact unchanged.symm ▸ sound
    · intro key e found
      rw [emptied, Keyed.get?_empty] at found
      exact absurd found.symm (Option.some_ne_none e)

/-- Whether every text in the near tier is one that may stand under its key, and the durable tier
is sound. -/
structure Session.Holds {κ σ : Type} (may : (key text : String) → Prop) (sound : σ → Prop)
    (s : Session κ σ) : Prop where
  near : ∀ key entry, s.tiers.near.get? key = some entry → may key entry.text
  durable : sound s.tiers.durable

namespace Session.Holds

variable {κ ρ α σ : Type} {config : CacheConfig} {backend : Backend σ}
  {may : String → String → Prop} {sound : σ → Prop} {s : Session κ σ}

/-- A text that may stand under a key is written into the near tier. -/
theorem writeNear (holds : s.Holds may sound) {key text : String} (allowed : may key text)
    (storedAt : Instant) :
    Session.Holds may sound
      { s with tiers := ⟨s.tiers.near.insert key ⟨text, storedAt⟩, s.tiers.durable⟩ } where
  near other entry found := by
    have found : (s.tiers.near.insert key ⟨text, storedAt⟩).get? other = some entry := found
    rw [Keyed.get?_insert] at found
    split at found
    · next same =>
      obtain rfl := Option.some.inj found
      exact same ▸ allowed
    · exact holds.near other entry found
  durable := holds.durable

variable (law : backend.Obeys may sound)
include law

/-- Reading from the durable tier copies a text under its own key. -/
theorem run_fetch (holds : s.Holds may sound) (producer : Producer κ ρ) (codec : Codec α)
    (slot : Slot) :
    let after := (Cache.fetch config codec slot).run backend producer s
    after.2.Holds may sound ∧ ∀ value, after.1 = some value →
      ∃ text, may (config.key slot) text ∧ codec.decode text = some value := by
  intro after
  have asked : (s.asking config backend slot).Holds may sound :=
    ⟨holds.near, law.get_sound _ _ _ holds.durable⟩
  by_cases present : ∃ text,
      (backend.get (config.key slot) s.now s.tiers.durable).1 = .ok (some text)
  · obtain ⟨text, answer⟩ := present
    have allowed : may (config.key slot) text := law.get_answer _ _ _ _ holds.durable answer
    rcases found : backend.get (config.key slot) s.now s.tiers.durable with ⟨reply, durable⟩
    obtain rfl : reply = .ok (some text) := by rw [← answer, found]
    rw [Session.asking, found] at asked
    rcases readable : codec.decode text with _ | value
    · have ran : after = (none, { s with tiers := ⟨s.tiers.near, durable⟩ }) := by
        change (Program.bind _ _).run backend producer s = _
        rw [Program.run_bind]
        simp only [Program.access, Program.run, StorageStep.perform, found, readable]
        rfl
      rw [ran]
      refine ⟨asked, ?_⟩
      rintro _ ⟨⟩
    · have ran : after = (some value, { s with tiers := ⟨s.tiers.near.insert (config.key slot) ⟨text,
          Cache.backdated s.now (config.lifetime slot.domain)
            ((backend.ttl (config.key slot) s.now durable).1.toOption.getD none)⟩,
          (backend.ttl (config.key slot) s.now durable).2⟩ }) := by
        change (Program.bind _ _).run backend producer s = _
        rw [Program.run_bind]
        simp only [Program.access, Program.run, StorageStep.perform, found, readable]
        rfl
      have written := asked.writeNear allowed (Cache.backdated s.now
        (config.lifetime slot.domain)
        ((backend.ttl (config.key slot) s.now durable).1.toOption.getD none))
      rw [ran]
      refine ⟨⟨written.near, law.ttl_sound (config.key slot) s.now durable asked.durable⟩, ?_⟩
      rintro _ ⟨⟩
      exact ⟨text, allowed, readable⟩
  · have ran : after = (none, s.asking config backend slot) :=
      Cache.run_fetch_of_not_found config backend producer codec slot
        fun text answer => present ⟨text, answer⟩
    rw [ran]
    refine ⟨asked, ?_⟩
    rintro _ ⟨⟩

/-- A lookup answers with a text that may stand under the key of its slot. -/
theorem run_lookup (holds : s.Holds may sound) (producer : Producer κ ρ) (codec : Codec α)
    (slot : Slot) (maxAge : Option Nat) :
    let after := (Cache.lookup config codec slot maxAge).run backend producer s
    after.2.Holds may sound ∧ ∀ value, after.1 = some value →
      ∃ text, may (config.key slot) text ∧ codec.decode text = some value := by
  intro after
  by_cases young : ∃ entry, s.near? config slot = some entry ∧
      Cache.isUsable s.now maxAge entry = true
  · obtain ⟨entry, present, usable⟩ := young
    have ran : after = (codec.decode entry.text, s) :=
      Cache.run_lookup_of_usable config backend producer codec slot present usable
    rw [ran]
    exact ⟨holds, fun value read => ⟨entry.text, holds.near _ entry present, read⟩⟩
  · have ran : after = (Cache.fetch config codec slot).run backend producer s :=
      Cache.run_lookup_of_not_usable config backend producer codec slot fun entry present =>
        Bool.eq_false_iff.mpr fun usable => young ⟨entry, present, usable⟩
    rw [ran]
    exact holds.run_fetch law producer codec slot

/-- Storing a value keeps the invariant, if its text may stand under the key. -/
theorem run_set (holds : s.Holds may sound) (producer : Producer κ ρ) (codec : Codec α)
    (slot : Slot) (value : α)
    (allowed : ∀ text, codec.encode value = .ok text → may (config.key slot) text) :
    ((Cache.set config codec slot value).run backend producer s).2.Holds may sound := by
  rcases written : codec.encode value with reason | text
  · rw [Cache.run_set_of_error config backend producer codec slot value s written]
    exact holds
  · rw [Cache.run_set_of_encode config backend producer codec slot value s written]
    have allowed := allowed text written
    exact ⟨(holds.writeNear allowed s.now).near, law.set_sound _ _ _ _ _ holds.durable allowed⟩

/-- Producing a value keeps the invariant, if the text of what is produced may stand under the
key.  The answer is read from a text that may stand there, or it was produced. -/
theorem run_getOrProduce {ε : Type} (holds : s.Holds may sound)
    (producer : Producer κ (Except ε α)) (codec : Codec α) (slot : Slot) (request : κ)
    (allowed : ((Cache.get config codec slot).run backend producer s).1 = none →
      ∀ value text, producer.reply request = .ok value → codec.encode value = .ok text →
        may (config.key slot) text) :
    let after := (Cache.getOrProduce config codec slot request).run backend producer s
    after.2.Holds may sound ∧ ∀ value, after.1 = .value (.ok value) →
      producer.reply request = .ok value ∨
        ∃ text, may (config.key slot) text ∧ codec.decode text = some value := by
  intro after
  obtain ⟨looked, readable⟩ := holds.run_lookup law producer codec slot
    (some (config.lifetime slot.domain))
  rcases read : ((Cache.get config codec slot).run backend producer s).1 with _ | value
  · have asked : (((Cache.get config codec slot).run backend producer s).2.producing producer
        request).Holds may sound := ⟨looked.near, looked.durable⟩
    have ran : after = _ :=
      Cache.run_getOrProduce_of_none config backend producer codec slot request s read
    rcases replied : producer.reply request with e | value
    · simp only [ran, replied]
      exact ⟨asked, nofun⟩
    · simp only [ran, replied]
      refine ⟨asked.run_set law producer codec slot value (allowed read value · replied), ?_⟩
      intro known answer
      rcases stored : ((Cache.set config codec slot value).run backend producer _).1 with _ | _
      · rw [stored] at answer
        exact .inl (Ending.value.inj answer)
      · rw [stored] at answer
        exact nomatch answer
  · have ran : after = _ :=
      Cache.run_getOrProduce_of_some config backend producer codec slot request s read
    rw [ran]
    refine ⟨looked, fun known answer => .inr ?_⟩
    obtain rfl : value = known := Except.ok.inj (Ending.value.inj answer)
    exact readable value read

end Session.Holds

/-! ### Operations -/

namespace Operation

variable {σ : Type}

/-- The slot in which an operation stores, and the text.  A produced value is stored where
there was nothing to read. -/
def storedText? (config : CacheConfig) (backend : Backend σ) (s : Session Slot σ) :
    Operation → Option (Slot × String)
  | set codec slot value => (codec.encode value).toOption.map fun text => (slot, text)
  | getOrProduce codec slot reply =>
    if ((Cache.get config codec slot).run backend (.instant reply) s).1.isSome then none
    else (reply.toOption.bind fun value => (codec.encode value).toOption).map fun text =>
      (slot, text)
  | get _ _ | peek _ _ | clear | pass _ => none

/-- An operation keeps the invariant, if what it stores may stand under its key. -/
theorem holds_run {config : CacheConfig} {backend : Backend σ}
    {may : String → String → Prop} {sound : σ → Prop} {s : Session Slot σ}
    (law : backend.Obeys may sound) (holds : s.Holds may sound) (operation : Operation)
    (allowed : ∀ slot text, operation.storedText? config backend s = some (slot, text) →
      may (config.key slot) text) :
    (operation.run config backend s).Holds may sound := by
  cases operation with
  | set codec slot value =>
    refine holds.run_set law _ codec slot value fun text written => allowed slot text ?_
    rw [storedText?, written]
    rfl
  | get codec slot => exact (holds.run_lookup law _ codec slot _).1
  | peek codec slot => exact (holds.run_lookup law _ codec slot _).1
  | getOrProduce codec slot reply =>
    refine (holds.run_getOrProduce law (.instant reply) codec slot slot ?_).1
    intro read value text replied written
    refine allowed slot text ?_
    obtain rfl : reply = .ok value := replied
    rw [storedText?, read]
    simp [written, Except.toOption]
  | clear =>
    rw [run, Cache.run_clear]
    exact ⟨holds.near, law.flush_sound s.now s.tiers.durable holds.durable⟩
  | pass duration => exact ⟨holds.near, holds.durable⟩

end Operation

/-! ### Several caches -/

/-- Caches over one durable tier. -/
structure CacheGroup (σ : Type) where
  now : Instant
  /-- The near entries of each cache. -/
  near : Nat → Keyed LocalEntry
  durable : σ

namespace CacheGroup

variable {σ : Type}

/-- Nothing has been called yet. -/
def start (now : Instant) (durable : σ) : CacheGroup σ := ⟨now, fun _ => .empty, durable⟩

/-- What one cache sees. -/
def session (g : CacheGroup σ) (i : Nat) : Session Slot σ :=
  ⟨g.now, ⟨g.near i, g.durable⟩, []⟩

/-- The caches after a session of one of them. -/
def resume (g : CacheGroup σ) (i : Nat) (s : Session Slot σ) : CacheGroup σ :=
  ⟨s.now, fun j => if j = i then s.tiers.near else g.near j, s.tiers.durable⟩

variable (configs : Nat → CacheConfig) (backend : Backend σ)

/-- What an operation of one cache makes of the caches. -/
def call (g : CacheGroup σ) (c : Nat × Operation) : CacheGroup σ :=
  g.resume c.1 (c.2.run (configs c.1) backend (g.session c.1))

/-- What operations of any caches make of them, one after the other. -/
def runAll (g : CacheGroup σ) (calls : List (Nat × Operation)) : CacheGroup σ :=
  calls.foldl (call configs backend) g

theorem runAll_concat (g : CacheGroup σ) (calls : List (Nat × Operation)) (c : Nat × Operation) :
    runAll configs backend g (calls ++ [c]) =
      (runAll configs backend g calls).call configs backend c := by
  rw [runAll, List.foldl_append]
  rfl

/-- Whether a text was stored under a key by some call. -/
def Traced (g : CacheGroup σ) (calls : List (Nat × Operation)) (key text : String) : Prop :=
  ∃ before i operation after slot, calls = before ++ (i, operation) :: after ∧
    operation.storedText? (configs i) backend ((runAll configs backend g before).session i) =
      some (slot, text) ∧
    (configs i).key slot = key

variable {configs} {backend} {g : CacheGroup σ} {calls : List (Nat × Operation)}

/-- A text stays traced when more is called. -/
theorem Traced.concat {key text : String} (traced : Traced configs backend g calls key text)
    (c : Nat × Operation) : Traced configs backend g (calls ++ [c]) key text := by
  obtain ⟨before, i, operation, after, slot, rfl, stores, same⟩ := traced
  exact ⟨before, i, operation, after ++ [c], slot, by simp, stores, same⟩

/-- Whatever is called, every text in a tier is traced, if there was none in the durable
tier at first. -/
theorem traced_runAll {kept : σ → ExpiringTexts} (law : backend.KeepsTexts kept) {durable : σ}
    (nothing : kept durable = .empty) (now : Instant) (calls : List (Nat × Operation)) (i : Nat) :
    let traced := Traced configs backend (start now durable) calls
    ((runAll configs backend (start now durable) calls).session i).Holds traced
      fun s => (kept s).Obey traced := by
  induction calls using List.reverseRecOn generalizing i with
  | nil => exact ⟨fun _ _ found => (nomatch found), fun key e found => by
      have found : (kept durable).get? key = some e := found
      rw [nothing] at found
      exact nomatch found⟩
  | append_singleton calls c traced =>
    obtain ⟨j, operation⟩ := c
    let longer := Traced configs backend (start now durable) (calls ++ [(j, operation)])
    have earlier (k : Nat) : ((runAll configs backend (start now durable) calls).session k).Holds
        longer fun s => (kept s).Obey longer :=
      ⟨fun key entry found => ((traced k).near key entry found).concat _,
        fun key e found => ((traced k).durable key e found).concat _⟩
    have called := Operation.holds_run (law.obeys longer) (earlier j) operation fun slot text stores =>
      ⟨calls, j, operation, [], slot, rfl, stores, rfl⟩
    rw [runAll_concat]
    refine ⟨fun key entry found => ?_, called.durable⟩
    change (if i = j then _ else _ : Keyed LocalEntry).get? key = some entry at found
    split at found
    · exact called.near key entry found
    · exact (earlier i).near key entry found

/-- What a cache reads or peeks at was stored in that slot by a cache of the same space.
This is so after any calls of any caches, whichever calls of the durable tier fail, if
caches of different spaces are apart; no key then belongs to two slots or two spaces. -/
theorem read_own_space
    (apart : ∀ i j, (configs i).space = (configs j).space ∨ (configs i).Apart (configs j))
    {kept : σ → ExpiringTexts} (law : backend.KeepsTexts kept) {durable : σ}
    (nothing : kept durable = .empty) (now : Instant) (calls : List (Nat × Operation)) :
    let g := start now durable
    (∀ i j s t, (configs i).key s = (configs j).key t →
      (configs i).space = (configs j).space ∧ s = t) ∧
    ∀ (α : Type) (i : Nat) (codec : Codec α) (slot : Slot) (value : α),
      let seen := (runAll configs backend g calls).session i
      (seen.get? (configs i) backend codec slot = some value ∨
        seen.peek? (configs i) backend codec slot = some value) →
      ∃ before j operation after text, calls = before ++ (j, operation) :: after ∧
        (configs j).space = (configs i).space ∧
        operation.storedText? (configs j) backend ((runAll configs backend g before).session j) =
          some (slot, text) ∧
        codec.decode text = some value := by
  intro g
  have keys : ∀ i j s t, (configs i).key s = (configs j).key t →
      (configs i).space = (configs j).space ∧ s = t := by
    intro i j s t same
    rcases CacheConfig.key_eq_key_cases same with equal | inner
    · exact equal
    · rcases apart i j with spaces | different
      · rw [CacheConfig.key, CacheConfig.key, spaces] at same
        exact ⟨spaces, (configs j).key_injective same⟩
      · exact absurd same (CacheConfig.apart_iff.mp different s t)
  refine ⟨keys, ?_⟩
  intro α i codec slot value seen read
  let traced := Traced configs backend g calls
  have holds : seen.Holds traced fun s => (kept s).Obey traced :=
    traced_runAll law nothing now calls i
  obtain ⟨text, ⟨before, j, operation, after, t, split, stores, same⟩, readable⟩ :
      ∃ text, Traced configs backend g calls ((configs i).key slot) text ∧
        codec.decode text = some value := by
    rcases read with read | read
    · exact (holds.run_lookup (law.obeys traced) (.instant ()) codec slot _).2 value read
    · exact (holds.run_lookup (law.obeys traced) (.instant ()) codec slot _).2 value read
  obtain ⟨spaces, rfl⟩ := keys j i t slot same
  exact ⟨before, j, operation, after, text, split, spaces, stores, readable⟩

/-- The caches of a live system and one of its test system. -/
def ofTwoSystems : Nat → CacheConfig
  | 1 => CacheConfig.plain.withSpace "test"
  | _ => CacheConfig.plain.withSpace "live"

/-- A second live cache reads what the first one has stored, although the test system has
stored another value in the same slot since then. -/
theorem read_own_space_of_two_systems :
    let texts : Codec String := ⟨.ok, some⟩
    let slot : Slot := ⟨.economics, some "a:b"⟩
    let calls : List (Nat × Operation) := [(0, .set texts slot "18"), (1, .set texts slot "7")]
    let seen := (runAll ofTwoSystems .memory (start 0 .empty) calls).session 2
    (∀ i j, (ofTwoSystems i).space = (ofTwoSystems j).space ∨
      (ofTwoSystems i).Apart (ofTwoSystems j)) ∧
    seen.get? (ofTwoSystems 2) .memory texts slot = some "18" ∧
    ∃ before j operation after text, calls = before ++ (j, operation) :: after ∧
      (ofTwoSystems j).space = (ofTwoSystems 2).space ∧
      operation.storedText? (ofTwoSystems j) .memory
          ((runAll ofTwoSystems .memory (start 0 .empty) before).session j) = some (slot, text) ∧
      texts.decode text = some "18" := by
  intro texts slot calls seen
  have spaces : ∀ i, (ofTwoSystems i).space = "test" ∨ (ofTwoSystems i).space = "live" := by
    intro i
    rcases i with _ | _ | i
    · exact .inr rfl
    · exact .inl rfl
    · exact .inr rfl
  have apart : ∀ i j, (ofTwoSystems i).space = (ofTwoSystems j).space ∨
      (ofTwoSystems i).Apart (ofTwoSystems j) := by
    intro i j
    by_cases same : (ofTwoSystems i).space = (ofTwoSystems j).space
    · exact .inl same
    · have unmarked : ∀ k, ':' ∉ (ofTwoSystems k).space.toList := by
        intro k
        rcases spaces k with space | space <;> rw [space] <;> decide
      exact .inr (CacheConfig.apart_of_unmarked same (unmarked i) (unmarked j))
  have read : seen.get? (ofTwoSystems 2) .memory texts slot = some "18" := by decide +kernel
  exact ⟨apart, read, (read_own_space apart Backend.keepsTexts_memory rfl 0 calls).2 String 2
    texts slot "18" (.inl read)⟩

/-- A cache whose space is a key under another one: what it stores the other cache reads in
a slot of its own. -/
theorem read_foreign_space :
    let outer := CacheConfig.standard.withSpace "a"
    let inner := CacheConfig.standard.withSpace "a:economics"
    let configs : Nat → CacheConfig := fun i => if i = 0 then inner else outer
    let texts : Codec String := ⟨.ok, some⟩
    let calls : List (Nat × Operation) := [(0, .set texts ⟨.nodes, some "x"⟩ "1")]
    let seen := (runAll configs .memory (start 0 .empty) calls).session 1
    inner.space ≠ outer.space ∧
      inner.key ⟨.nodes, some "x"⟩ = outer.key ⟨.economics, some "nodes:x"⟩ ∧
      seen.get? outer .memory texts ⟨.economics, some "nodes:x"⟩ = some "1" := by
  decide +kernel

end CacheGroup

end ChainActivity
