import ChainActivity.Cache.Clock
import ChainActivity.Keyed

/-!
# Durable tiers

A durable tier keeps texts under keys, each for a limited time, and may be shared by
several caches.

## Main definitions

* `Backend` — the four calls of a durable tier over some state.
* `Backend.Completes`, `Backend.BreaksOff` — whether no call that stores is broken off up to some
  moment, or each one from some moment on.
* `Backend.absent` — no durable tier at all.
* `ExpiringTexts`, `Backend.memory` — a durable tier in memory.
* `Faults`, `Backend.withFaults` — a durable tier some of whose calls fail.

## Design notes

A call answers with an error or a value and leaves a new state behind; an expired
text stays in the state of `Backend.memory` but is not seen any more.

A tier that notes when a text expires has to name that moment.  If it cannot, then the call
that wanted to keep the text is broken off, and nothing is kept.
-/

namespace ChainActivity

/-- Why a call of a cache fails. -/
inductive CacheError where
  | unavailable (reason : String)
  | serialization (reason : String)
  deriving DecidableEq, Repr

/-- The error in words. -/
def CacheError.message : CacheError → String
  | .unavailable reason => s!"Backend unavailable: {reason}"
  | .serialization reason => s!"Serialization error: {reason}"

/-- The calls of a durable tier, at some moment and in some state. -/
structure Backend (σ : Type) where
  /-- The text under a key. -/
  get : (key : String) → Instant → σ → Except CacheError (Option String) × σ
  /-- Keeps a text under a key for some time. -/
  set : (key text : String) → (lifetime : Nat) → Instant → σ → Ending (Except CacheError Unit) × σ
  /-- The time for which the text under a key is still kept. -/
  ttl : (key : String) → Instant → σ → Except CacheError (Option Nat) × σ
  /-- Drops everything. -/
  flush : Instant → σ → Except CacheError Unit × σ

namespace Backend

/-- No durable tier: nothing is kept and nothing fails. -/
def absent {σ : Type} : Backend σ where
  get _ _ s := (.ok none, s)
  set _ _ _ _ s := (.value (.ok ()), s)
  ttl _ _ s := (.ok none, s)
  flush _ s := (.ok (), s)

/-- Whether no call that stores for some lifetime is broken off, up to some moment. -/
def Completes {σ : Type} (b : Backend σ) (lifetime : Nat) (last : Instant) : Prop :=
  ∀ key text now s, now ≤ last → (b.set key text lifetime now s).1 ≠ .broken

/-- Whether every call that stores for some lifetime is broken off, from some moment on. -/
def BreaksOff {σ : Type} (b : Backend σ) (lifetime : Nat) (first : Instant) : Prop :=
  ∀ key text now s, first ≤ now → (b.set key text lifetime now s).1 = .broken

theorem BreaksOff.mono {σ : Type} {b : Backend σ} {lifetime : Nat} {first later : Instant}
    (breaks : b.BreaksOff lifetime first) (order : first ≤ later) : b.BreaksOff lifetime later :=
  fun key text now s late => breaks key text now s (Int.le_trans order late)

theorem completes_absent {σ : Type} (lifetime : Nat) (last : Instant) :
    (absent : Backend σ).Completes lifetime last :=
  fun _ _ _ _ _ => nofun

end Backend

/-! ### A durable tier in memory -/

/-- A text and the moment from which on it is not seen any more. -/
structure Expiring where
  text : String
  expiresAt : Instant
  deriving DecidableEq, Repr

/-- The state of a durable tier in memory. -/
abbrev ExpiringTexts := Keyed Expiring

namespace ExpiringTexts

/-- The text under a key that is still seen at some moment. -/
def find? (m : ExpiringTexts) (key : String) (now : Instant) : Option Expiring :=
  (m.get? key).filter fun e => decide (now < e.expiresAt)

/-- A text is seen until its end. -/
theorem find?_eq_some_iff {m : ExpiringTexts} {key : String} {now : Instant} {e : Expiring} :
    m.find? key now = some e ↔ m.get? key = some e ∧ now < e.expiresAt := by
  rw [find?, Option.filter_eq_some_iff, decide_eq_true_iff]

/-- The text under a key. -/
def text? (m : ExpiringTexts) (key : String) (now : Instant) : Option String :=
  (m.find? key now).map Expiring.text

/-- The time for which the text under a key is still seen. -/
def remaining? (m : ExpiringTexts) (key : String) (now : Instant) : Option Nat :=
  (m.find? key now).map fun e => (e.expiresAt - now).toNat

/-- Keeps a text under a key until some moment. -/
def store (m : ExpiringTexts) (key text : String) (expiresAt : Instant) : ExpiringTexts :=
  m.insert key ⟨text, expiresAt⟩

/-- The number of texts that are still seen. -/
def visibleCount (m : ExpiringTexts) (now : Instant) : Nat :=
  m.count fun e => decide (now < e.expiresAt)

end ExpiringTexts

/-- A durable tier in memory. -/
def Backend.memory : Backend ExpiringTexts where
  get key now m := (.ok (m.text? key now), m)
  set key text lifetime now m :=
    match now.after? lifetime with
    | some expiresAt => (.value (.ok ()), m.store key text expiresAt)
    | none => (.broken, m)
  ttl key now m := (.ok (m.remaining? key now), m)
  flush _ _ := (.ok (), .empty)

namespace Backend

/-- A text whose end can be named is kept. -/
theorem set_memory_of_lt {key text : String} {lifetime : Nat} {now : Instant} {m : ExpiringTexts}
    (namable : now + lifetime < Instant.limit) :
    memory.set key text lifetime now m =
      (.value (.ok ()), m.store key text (now + lifetime)) := by
  rw [memory]
  simp only [Instant.after?_of_lt namable]

/-- A text whose end cannot be named breaks the call off, and is not kept. -/
theorem set_memory_of_le {key text : String} {lifetime : Nat} {now : Instant} {m : ExpiringTexts}
    (beyond : Instant.limit ≤ now + lifetime) :
    memory.set key text lifetime now m = (.broken, m) := by
  rw [memory]
  simp only [Instant.after?_of_le beyond]

theorem completes_memory {lifetime : Nat} {last : Instant}
    (namable : last + lifetime < Instant.limit) : memory.Completes lifetime last := by
  intro key text now m early
  rw [set_memory_of_lt (Int.lt_of_le_of_lt (Int.add_le_add_right early _) namable)]
  nofun

theorem breaksOff_memory {lifetime : Nat} {first : Instant}
    (beyond : Instant.limit ≤ first + lifetime) : memory.BreaksOff lifetime first := by
  intro key text now m late
  rw [set_memory_of_le (Int.le_trans beyond (Int.add_le_add_right late _))]

end Backend

/-! ### Faults -/

/-- Which calls of a durable tier fail. -/
structure Faults where
  get : Bool := false
  set : Bool := false
  ttl : Bool := false
  flush : Bool := false
  /-- What is answered for every lifetime, instead of the truth. -/
  fixedTtl : Option (Option Nat) := none
  deriving DecidableEq, Repr

/-- The error of a call that fails. -/
def Faults.error : CacheError := .unavailable "down"

/-- A durable tier some of whose calls fail.  A call that fails changes nothing. -/
def Backend.withFaults {σ : Type} (b : Backend σ) (faults : Faults) : Backend σ where
  get key now s := if faults.get then (.error Faults.error, s) else b.get key now s
  set key text lifetime now s :=
    if faults.set then (.value (.error Faults.error), s) else b.set key text lifetime now s
  ttl key now s :=
    if faults.ttl then (.error Faults.error, s)
    else match faults.fixedTtl with
      | some fixed => (.ok fixed, s)
      | none => b.ttl key now s
  flush now s := if faults.flush then (.error Faults.error, s) else b.flush now s

end ChainActivity
