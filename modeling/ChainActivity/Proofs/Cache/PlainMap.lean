import ChainActivity.Proofs.Cache.Key
import ChainActivity.Proofs.Cache.Run
import ChainActivity.Proofs.Cache.Unreliable

/-!
# The cache as a plain map

A cache that has its durable tier to itself answers like a map that remembers for each
slot the value that was stored last and when: reading gives that value while it is
young, and peeking gives it at any age.  It does not matter which calls of the durable
tier fail.

## Main definitions

* `Stored`, `PlainMap` — the value that was stored last in a slot, for every slot.
* `Session.Agrees` — the invariant that ties the two tiers to a plain map.

## Main statements

* `Session.Agrees.run_get`, `Session.Agrees.run_peek`, `Session.Agrees.run_set`,
  `Session.Agrees.run_getOrProduce`, `Session.Agrees.run_clear` — each call follows the
  map.

## Design notes

The near tier is written first and its entries are never dropped, so it always has the
value that was stored last.  What is load-bearing is the bound on the durable tier: a
text is not seen there longer than its near entry is young.  So when the near entry is
missing or too old, the durable tier has nothing to see, and nothing is ever copied
back from it.

A plain map keeps values of any type.  A value is kept together with the codec it was
written with; reading at another type reads its text.
-/

namespace ChainActivity

/-! ### Plain maps -/

/-- A value that was stored, with its text and the moment. -/
structure Stored where
  {Value : Type}
  codec : Codec Value
  value : Value
  text : String
  written : codec.encode value = .ok text
  since : Instant

/-- The near entry of a stored value. -/
def Stored.entry (v : Stored) : LocalEntry :=
  ⟨v.text, v.since⟩

/-- The value that was stored last in a slot, for every slot, at some moment. -/
structure PlainMap where
  now : Instant
  stored : Slot → Option Stored

namespace PlainMap

variable {α ε : Type}

/-- Nothing has been stored. -/
def fresh (now : Instant) : PlainMap := ⟨now, fun _ => none⟩

/-- Time passes. -/
def pass (m : PlainMap) (duration : Nat) : PlainMap :=
  { m with now := m.now + duration }

/-- The value of a slot while it is young. -/
def get? (m : PlainMap) (config : CacheConfig) (codec : Codec α) (slot : Slot) : Option α :=
  match m.stored slot with
  | none => none
  | some v => if m.now - v.since < config.lifetime slot.domain then codec.decode v.text else none

/-- The value of a slot at any age. -/
def peek? (m : PlainMap) (codec : Codec α) (slot : Slot) : Option α :=
  (m.stored slot).bind fun v => codec.decode v.text

/-- Stores a value in a slot, if it can be written. -/
def store (m : PlainMap) (codec : Codec α) (slot : Slot) (value : α) : PlainMap :=
  match written : codec.encode value with
  | .error _ => m
  | .ok text =>
    { m with stored := fun t =>
        if t = slot then some ⟨codec, value, text, written, m.now⟩ else m.stored t }

/-- If a slot has no young value, time passes while one is produced; it is then stored
if it is a value. -/
def getOrProduce (m : PlainMap) (config : CacheConfig) (codec : Codec α) (slot : Slot)
    (reply : Except ε α) (duration : Nat) : PlainMap :=
  match m.get? config codec slot, reply with
  | some _, _ => m
  | none, .error _ => m.pass duration
  | none, .ok value => (m.pass duration).store codec slot value

@[simp] theorem now_store (m : PlainMap) (codec : Codec α) (slot : Slot) (value : α) :
    (m.store codec slot value).now = m.now := by
  rw [store]
  split <;> rfl

/-- Producing a value at once takes no time. -/
theorem now_getOrProduce_zero (m : PlainMap) (config : CacheConfig) (codec : Codec α) (slot : Slot)
    (reply : Except ε α) : (m.getOrProduce config codec slot reply 0).now = m.now := by
  have instantly : (m.pass 0).now = m.now := Int.add_zero _
  unfold getOrProduce
  split
  · rfl
  · exact instantly
  · exact (now_store ..).trans instantly

/-- No other slot is touched. -/
theorem stored_store_of_ne (m : PlainMap) (codec : Codec α) {slot t : Slot} (other : t ≠ slot)
    (value : α) : (m.store codec slot value).stored t = m.stored t := by
  rw [store]
  split
  · rfl
  · exact if_neg other

/-- A value that cannot be written is not stored. -/
theorem store_of_error (m : PlainMap) {codec : Codec α} {value : α} {reason : String}
    (slot : Slot) (refused : codec.encode value = .error reason) :
    m.store codec slot value = m := by
  rw [store]
  split
  · rfl
  · next text written => exact absurd (refused.symm.trans written) (by simp)

/-- A value that can be written is the last one of its slot. -/
theorem stored_store_self (m : PlainMap) {codec : Codec α} {value : α} {text : String}
    (slot : Slot) (written : codec.encode value = .ok text) :
    (m.store codec slot value).stored slot = some ⟨codec, value, text, written, m.now⟩ := by
  rw [store]
  split
  · next reason refused => exact absurd (refused.symm.trans written) (by simp)
  · next other same =>
    obtain rfl : other = text := Except.ok.inj (same.symm.trans written)
    exact if_pos rfl

/-- What a map answers depends on the moment and on what the slot has. -/
theorem get?_congr {m n : PlainMap} {slot : Slot} (times : m.now = n.now)
    (values : m.stored slot = n.stored slot) (config : CacheConfig) (codec : Codec α) :
    m.get? config codec slot = n.get? config codec slot := by
  rw [get?, get?, times, values]

theorem peek?_congr {m n : PlainMap} {slot : Slot} (values : m.stored slot = n.stored slot)
    (codec : Codec α) : m.peek? codec slot = n.peek? codec slot := by
  rw [peek?, peek?, values]

end PlainMap

/-! ### Agreement -/

/-- Nothing has been called yet, and both tiers are empty. -/
def Session.fresh {κ : Type} (now : Instant) : Session κ (ExpiringTexts × Nat) :=
  ⟨now, ⟨.empty, (.empty, 0)⟩, []⟩

/-- A session whose tiers follow a plain map: the near tier has exactly the texts of the
map, and the durable tier has none that is seen longer than its near entry is young. -/
structure Session.Agrees {κ σ : Type} (config : CacheConfig) (kept : σ → ExpiringTexts)
    (m : PlainMap) (s : Session κ σ) : Prop where
  now : s.now = m.now
  past : ∀ slot v, m.stored slot = some v → v.since ≤ m.now
  near : ∀ slot, s.near? config slot = (m.stored slot).map Stored.entry
  durable : ∀ slot e, (kept s.tiers.durable).get? (config.key slot) = some e →
    ∃ v, m.stored slot = some v ∧ e.expiresAt ≤ v.since + config.lifetime slot.domain

namespace Session.Agrees

variable {κ ρ ε α σ : Type} {config : CacheConfig} {backend : Backend σ}
  {kept : σ → ExpiringTexts} {m : PlainMap} {s : Session κ σ}

/-- Tiers without any text follow the empty map. -/
theorem of_empty (config : CacheConfig) {durable : σ} (nothing : kept durable = .empty)
    (now : Instant) (asked : List κ) :
    Agrees config kept (.fresh now) ⟨now, ⟨.empty, durable⟩, asked⟩ where
  now := rfl
  past _ _ found := nomatch found
  near _ := rfl
  durable slot e found := by
    rw [nothing] at found
    exact nomatch found

/-- Before any call the tiers follow the empty map. -/
theorem fresh (config : CacheConfig) (failures : Option (Nat → Option CacheError))
    (now : Instant) :
    Agrees config (Backend.keptTexts failures) (.fresh now) (Session.fresh now : Session κ _) := by
  have nothing : Backend.keptTexts failures (.empty, 0) = .empty := by cases failures <;> rfl
  exact of_empty config nothing now []

/-- Time passes for both. -/
theorem pass (agrees : Agrees config kept m s) (duration : Nat) (asked : List κ) :
    Agrees config kept (m.pass duration) ⟨s.now + duration, s.tiers, asked⟩ where
  now := by rw [agrees.now, PlainMap.pass]
  past slot v found := by
    have earlier : v.since ≤ m.now := agrees.past slot v found
    have later : m.now ≤ m.now + duration := Int.le_add_of_nonneg_right (Int.natCast_nonneg _)
    exact Int.le_trans earlier later
  near := agrees.near
  durable := agrees.durable

/-- The durable tier may keep what it keeps, or nothing at all. -/
theorem of_kept (agrees : Agrees config kept m s) {durable : σ}
    (fewer : kept durable = kept s.tiers.durable ∨ kept durable = .empty) :
    Agrees config kept m { s with tiers := ⟨s.tiers.near, durable⟩ } where
  now := agrees.now
  past := agrees.past
  near := agrees.near
  durable slot e found := by
    have found : (kept durable).get? (config.key slot) = some e := found
    rcases fewer with same | nothing
    · rw [same] at found
      exact agrees.durable slot e found
    · rw [nothing] at found
      exact nomatch found

variable (law : backend.KeepsAtMost kept)
include law

/-- Asking the durable tier changes nothing that matters. -/
theorem asking (agrees : Agrees config kept m s) (slot : Slot) :
    Agrees config kept m (s.asking config backend slot) :=
  agrees.of_kept (.inl (law.get_kept _ _ _))

/-- Where no young value is stored the durable tier has nothing to see. -/
theorem not_found (agrees : Agrees config kept m s) {slot : Slot}
    (old : ∀ v, m.stored slot = some v → v.since + config.lifetime slot.domain ≤ m.now)
    (text : String) :
    (backend.get (config.key slot) s.now s.tiers.durable).1 ≠ .ok (some text) := by
  intro found
  have seen := law.get_answer _ _ _ _ found
  rw [ExpiringTexts.text?, Option.map_eq_some_iff] at seen
  obtain ⟨e, entry, -⟩ := seen
  obtain ⟨present, visible⟩ := ExpiringTexts.find?_eq_some_iff.mp entry
  obtain ⟨v, value, bound⟩ := agrees.durable slot e present
  have expired := old v value
  rw [agrees.now] at visible
  exact absurd visible (Int.not_lt.mpr (Int.le_trans bound expired))

/-- Storing a text in both tiers is storing its value in the map. -/
theorem stored (agrees : Agrees config kept m s) {codec : Codec α} {value : α} {text : String}
    (slot : Slot) (written : codec.encode value = .ok text) :
    Agrees config kept (m.store codec slot value) (s.stored config backend slot text) where
  now := by rw [PlainMap.now_store]; exact agrees.now
  past t v found := by
    rw [PlainMap.now_store]
    by_cases same : t = slot
    · subst same
      rw [m.stored_store_self t written] at found
      obtain rfl := Option.some.inj found
      exact Int.le_refl _
    · rw [m.stored_store_of_ne codec same] at found
      exact agrees.past t v found
  near t := by
    rw [near?, Session.stored]
    by_cases same : t = slot
    · subst same
      rw [m.stored_store_self t written, agrees.now, Keyed.get?_insert_self]
      rfl
    · have keys : config.key slot ≠ config.key t :=
        fun equal => same (config.key_injective equal).symm
      rw [m.stored_store_of_ne codec same, Keyed.get?_insert_of_ne _ keys]
      exact agrees.near t
  durable t e found := by
    rw [Session.stored] at found
    have kept_or_stored := law.set_kept (config.key slot) text (config.lifetime slot.domain)
      s.now s.tiers.durable
    by_cases same : t = slot
    · subst same
      refine ⟨_, m.stored_store_self t written, ?_⟩
      rcases kept_or_stored with unchanged | stored
      · -- the text of the value before, which is seen no longer than that value is young
        rw [unchanged] at found
        obtain ⟨v, value, bound⟩ := agrees.durable t e found
        have earlier := agrees.past t v value
        exact Int.le_trans bound (Int.add_le_add_right earlier _)
      · rw [stored, ExpiringTexts.store, Keyed.get?_insert_self] at found
        obtain rfl := Option.some.inj found
        exact Int.le_of_eq (congrArg (· + _) agrees.now)
    · have keys : config.key slot ≠ config.key t :=
        fun equal => same (config.key_injective equal).symm
      rw [m.stored_store_of_ne codec same]
      rcases kept_or_stored with unchanged | stored
      · rw [unchanged] at found
        exact agrees.durable t e found
      · rw [stored, ExpiringTexts.store, Keyed.get?_insert_of_ne _ keys] at found
        exact agrees.durable t e found

/-- Where no stored value is young enough neither tier has one to give. -/
theorem run_lookup_of_old (agrees : Agrees config kept m s) (producer : Producer κ ρ)
    (codec : Codec α) {slot : Slot} {maxAge : Option Nat}
    (unusable : ∀ v, m.stored slot = some v → Cache.isUsable m.now maxAge v.entry = false)
    (old : ∀ v, m.stored slot = some v → v.since + config.lifetime slot.domain ≤ m.now) :
    (Cache.lookup config codec slot maxAge).run backend producer s =
      (none, s.asking config backend slot) := by
  have unseen : ∀ e, s.near? config slot = some e → Cache.isUsable s.now maxAge e = false := by
    intro e present
    rw [agrees.near slot, Option.map_eq_some_iff] at present
    obtain ⟨v, value, rfl⟩ := present
    rw [agrees.now]
    exact unusable v value
  rw [Cache.run_lookup_of_not_usable config backend producer codec slot unseen,
    Cache.run_fetch_of_not_found config backend producer codec slot (agrees.not_found law old)]

/-- Where nothing is stored neither tier has a value to give, whatever its age may be. -/
theorem run_lookup_of_none (agrees : Agrees config kept m s) (producer : Producer κ ρ)
    (codec : Codec α) {slot : Slot} (missing : m.stored slot = none) (maxAge : Option Nat) :
    (Cache.lookup config codec slot maxAge).run backend producer s =
      (none, s.asking config backend slot) := by
  apply agrees.run_lookup_of_old law producer codec
  · intro v present
    exact nomatch missing.symm.trans present
  · intro v present
    exact nomatch missing.symm.trans present

/-- Reading where a value is young gives that value, and elsewhere nothing. -/
theorem run_get (agrees : Agrees config kept m s) (producer : Producer κ ρ) (codec : Codec α)
    (slot : Slot) :
    ((Cache.get config codec slot).run backend producer s).1 = m.get? config codec slot ∧
      Agrees config kept m ((Cache.get config codec slot).run backend producer s).2 ∧
      ((Cache.get config codec slot).run backend producer s).2.asked = s.asked := by
  rw [Cache.get, PlainMap.get?]
  rcases value : m.stored slot with _ | v
  · rw [agrees.run_lookup_of_none law producer codec value]
    exact ⟨rfl, agrees.asking law slot, rfl⟩
  · by_cases young : m.now - v.since < config.lifetime slot.domain
    · have entry : s.near? config slot = some v.entry := by rw [agrees.near, value]; rfl
      have usable : Cache.isUsable s.now (some (config.lifetime slot.domain)) v.entry = true := by
        rw [agrees.now]
        exact decide_eq_true young
      rw [Cache.run_lookup_of_usable config backend producer codec slot entry usable]
      exact ⟨(if_pos young).symm, agrees, rfl⟩
    · -- an entry that is too old is not seen in the durable tier either
      have unusable : ∀ w, m.stored slot = some w →
          Cache.isUsable m.now (some (config.lifetime slot.domain)) w.entry = false := by
        intro w present
        obtain rfl : v = w := Option.some.inj (value.symm.trans present)
        exact decide_eq_false young
      have old : ∀ w, m.stored slot = some w →
          w.since + config.lifetime slot.domain ≤ m.now := by
        intro w present
        obtain rfl : v = w := Option.some.inj (value.symm.trans present)
        exact Int.add_le_of_le_sub_left (Int.not_lt.mp young)
      rw [agrees.run_lookup_of_old law producer codec unusable old]
      exact ⟨(if_neg young).symm, agrees.asking law slot, rfl⟩

/-- Peeking gives the value that was stored last, whatever its age. -/
theorem run_peek (agrees : Agrees config kept m s) (producer : Producer κ ρ) (codec : Codec α)
    (slot : Slot) :
    ((Cache.peek config codec slot).run backend producer s).1 = m.peek? codec slot ∧
      Agrees config kept m ((Cache.peek config codec slot).run backend producer s).2 ∧
      ((Cache.peek config codec slot).run backend producer s).2.asked = s.asked := by
  rw [Cache.peek, PlainMap.peek?]
  rcases value : m.stored slot with _ | v
  · rw [agrees.run_lookup_of_none law producer codec value]
    exact ⟨rfl, agrees.asking law slot, rfl⟩
  · have entry : s.near? config slot = some v.entry := by rw [agrees.near, value]; rfl
    rw [Cache.run_lookup_of_usable config backend producer codec slot entry rfl]
    exact ⟨rfl, agrees, rfl⟩

/-- Storing a value follows the map, whether it can be written or not. -/
theorem run_set (agrees : Agrees config kept m s) (producer : Producer κ ρ) (codec : Codec α)
    (slot : Slot) (value : α) :
    Agrees config kept (m.store codec slot value)
        ((Cache.set config codec slot value).run backend producer s).2 ∧
      ((Cache.set config codec slot value).run backend producer s).2.asked = s.asked := by
  rcases written : codec.encode value with reason | text
  · rw [Cache.run_set_of_error config backend producer codec slot value s written,
      m.store_of_error slot written]
    exact ⟨agrees, rfl⟩
  · rw [Cache.run_set_of_encode config backend producer codec slot value s written]
    exact ⟨agrees.stored law slot written, rfl⟩

/-- Emptying the cache follows the map: nothing is forgotten. -/
theorem run_clear (agrees : Agrees config kept m s) (producer : Producer κ ρ) :
    Agrees config kept m (Cache.clear.run backend producer s).2 := by
  rw [Cache.run_clear backend producer s]
  exact agrees.of_kept (law.flush_kept _ _)

/-- The producer is asked exactly where reading gives nothing; then its value is stored, which
the durable tier may break off. -/
theorem run_getOrProduce (agrees : Agrees config kept m s) (producer : Producer κ (Except ε α))
    (codec : Codec α) (slot : Slot) (request : κ) :
    let after := (Cache.getOrProduce config codec slot request).run backend producer s
    (after.1 = .value (match m.get? config codec slot with
          | some value => .ok value
          | none => producer.reply request) ∨
        after.1 = .broken ∧ m.get? config codec slot = none) ∧
      Agrees config kept
        (m.getOrProduce config codec slot (producer.reply request) (producer.duration request))
        after.2 ∧
      after.2.asked = (match m.get? config codec slot with
        | some _ => s.asked
        | none => s.asked ++ [request]) := by
  intro after
  obtain ⟨answer, reading, quiet⟩ := agrees.run_get law producer codec slot
  unfold PlainMap.getOrProduce
  rcases found : m.get? config codec slot with _ | value
  · rw [found] at answer
    have ran : after = _ := Cache.run_getOrProduce_of_none config backend producer codec slot
      request s answer
    have produced := reading.pass (producer.duration request)
      (((Cache.get config codec slot).run backend producer s).2.asked ++ [request])
    rcases reply : producer.reply request with e | value
    · simp only [reply] at ran
      rw [ran]
      exact ⟨.inl rfl, produced, congrArg (· ++ [request]) quiet⟩
    · simp only [reply] at ran
      obtain ⟨storing, silent⟩ := produced.run_set law producer codec slot value
      rw [ran]
      refine ⟨?_, storing, silent.trans (congrArg (· ++ [request]) quiet)⟩
      cases ((Cache.set config codec slot value).run backend producer _).1 with
      | value stored => exact .inl rfl
      | broken => exact .inr ⟨rfl, rfl⟩
  · rw [found] at answer
    have ran : after = _ := Cache.run_getOrProduce_of_some config backend producer codec slot
      request s answer
    rw [ran]
    exact ⟨.inl rfl, reading, quiet⟩

end Session.Agrees

end ChainActivity
