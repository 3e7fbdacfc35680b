import ChainActivity.Cache.Backend

/-!
# Durable tiers that fail

A durable tier any of whose calls may fail, and what a cache may still rely on.

## Main definitions

* `Backend.unreliable` — a durable tier that counts its calls and fails at some of them.
* `Backend.ofFailures` — no durable tier, or an unreliable one in memory.
* `Backend.KeepsAtMost` — the law of a tier that keeps no more than one in memory.

## Main statements

* `Backend.KeepsAtMost.unreliable`, `Backend.keepsAtMost_ofFailures` — failing calls do
  not break the law.
* `Backend.completes_ofFailures`, `Backend.breaksOff_ofFailures` — calls are broken off where the
  ends of lifetimes cannot be named, and nowhere else.

## Design notes

Whether a call fails depends on its number only, and the numbers at which calls fail
are any set.  So every pattern of failures is some `failure`, and the pattern without
failures gives the durable tier itself.
-/

namespace ChainActivity

namespace Backend

variable {σ τ : Type}

/-- A call that is made unless its number is one at which calls fail. -/
def attempt (failure : Nat → Option CacheError) (refuse : CacheError → τ) (call : σ → τ × σ)
    (s : σ × Nat) : τ × (σ × Nat) :=
  match failure s.2 with
  | some e => (refuse e, (s.1, s.2 + 1))
  | none => ((call s.1).1, ((call s.1).2, s.2 + 1))

/-- A durable tier that counts its calls, some of which fail.  A call that fails changes
nothing but the count. -/
def unreliable (b : Backend σ) (failure : Nat → Option CacheError) : Backend (σ × Nat) where
  get key now := attempt failure .error (b.get key now)
  set key text lifetime now :=
    attempt failure (fun e => .value (.error e)) (b.set key text lifetime now)
  ttl key now := attempt failure .error (b.ttl key now)
  flush now := attempt failure .error (b.flush now)

/-- No durable tier, or one in memory with the calls that fail. -/
def ofFailures : Option (Nat → Option CacheError) → Backend (ExpiringTexts × Nat)
  | none => absent
  | some failure => memory.unreliable failure

/-- Whether the durable tier keeps and answers nothing that a tier in memory would not. -/
structure KeepsAtMost (b : Backend σ) (kept : σ → ExpiringTexts) : Prop where
  get_answer : ∀ key now s text, (b.get key now s).1 = .ok (some text) →
    (kept s).text? key now = some text
  get_kept : ∀ key now s, kept (b.get key now s).2 = kept s
  set_kept : ∀ key text lifetime now s, kept (b.set key text lifetime now s).2 = kept s ∨
    kept (b.set key text lifetime now s).2 = (kept s).store key text (now + lifetime)
  flush_kept : ∀ now s, kept (b.flush now s).2 = kept s ∨ kept (b.flush now s).2 = .empty

/-- No durable tier keeps nothing. -/
theorem keepsAtMost_absent : (absent : Backend σ).KeepsAtMost fun _ => .empty where
  get_answer _ _ _ _ found := nomatch found
  get_kept _ _ _ := rfl
  set_kept _ _ _ _ _ := .inl rfl
  flush_kept _ _ := .inl rfl

/-- A durable tier in memory keeps what it keeps. -/
theorem keepsAtMost_memory : memory.KeepsAtMost id where
  get_answer _ _ _ _ found := Except.ok.inj found
  get_kept _ _ _ := rfl
  set_kept key text lifetime now s := by
    rcases Int.lt_or_le (now + lifetime) Instant.limit with namable | beyond
    · exact .inr (congrArg Prod.snd (set_memory_of_lt namable))
    · exact .inl (congrArg Prod.snd (set_memory_of_le beyond))
  flush_kept _ _ := .inr rfl

/-- An attempt answers with an error and leaves everything as it was, or it is the
call. -/
theorem attempt_cases (failure : Nat → Option CacheError) (refuse : CacheError → τ)
    (call : σ → τ × σ) (s : σ × Nat) :
    (∃ e, (attempt failure refuse call s).1 = refuse e ∧
        (attempt failure refuse call s).2.1 = s.1) ∨
      ((attempt failure refuse call s).1 = (call s.1).1 ∧
        (attempt failure refuse call s).2.1 = (call s.1).2) := by
  rw [attempt]
  cases failure s.2 with
  | some e => exact .inl ⟨e, rfl, rfl⟩
  | none => exact .inr ⟨rfl, rfl⟩

/-- Failing calls do not make a durable tier keep more. -/
theorem KeepsAtMost.unreliable {b : Backend σ} {kept : σ → ExpiringTexts}
    (law : b.KeepsAtMost kept) (failure : Nat → Option CacheError) :
    (b.unreliable failure).KeepsAtMost fun s => kept s.1 where
  get_answer key now s text found := by
    have found : (attempt failure .error (b.get key now) s).1 = .ok (some text) := found
    rcases attempt_cases failure .error (b.get key now) s with ⟨e, answer, -⟩ | ⟨answer, -⟩
    · rw [answer] at found
      exact nomatch found
    · rw [answer] at found
      exact law.get_answer key now s.1 text found
  get_kept key now s := by
    rcases attempt_cases failure .error (b.get key now) s with ⟨-, -, same⟩ | ⟨-, called⟩
    · exact congrArg kept same
    · exact (congrArg kept called).trans (law.get_kept key now s.1)
  set_kept key text lifetime now s := by
    rcases attempt_cases failure _ (b.set key text lifetime now) s with ⟨-, -, same⟩ | ⟨-, called⟩
    · exact .inl (congrArg kept same)
    · have after := congrArg kept called
      rcases law.set_kept key text lifetime now s.1 with unchanged | stored
      · exact .inl (after.trans unchanged)
      · exact .inr (after.trans stored)
  flush_kept now s := by
    rcases attempt_cases failure .error (b.flush now) s with ⟨-, -, same⟩ | ⟨-, called⟩
    · exact .inl (congrArg kept same)
    · have after := congrArg kept called
      rcases law.flush_kept now s.1 with unchanged | emptied
      · exact .inl (after.trans unchanged)
      · exact .inr (after.trans emptied)

/-- What a durable tier with failing calls keeps; nothing if there is none. -/
def keptTexts (failures : Option (Nat → Option CacheError)) (s : ExpiringTexts × Nat) :
    ExpiringTexts :=
  match failures with
  | none => .empty
  | some _ => s.1

/-- Whichever calls fail, nothing more is kept than in memory. -/
theorem keepsAtMost_ofFailures (failures : Option (Nat → Option CacheError)) :
    (ofFailures failures).KeepsAtMost (keptTexts failures) := by
  cases failures with
  | none => exact keepsAtMost_absent
  | some failure => exact keepsAtMost_memory.unreliable failure

/-- Failing calls break nothing off. -/
theorem Completes.unreliable {b : Backend σ} {lifetime : Nat} {last : Instant}
    (completes : b.Completes lifetime last) (failure : Nat → Option CacheError) :
    (b.unreliable failure).Completes lifetime last := by
  intro key text now s early ended
  have ended : (attempt failure (fun e => .value (.error e)) (b.set key text lifetime now) s).1 =
      .broken := ended
  rcases attempt_cases failure (fun e => .value (.error e)) (b.set key text lifetime now) s with
    ⟨e, answer, -⟩ | ⟨answer, -⟩
  · exact nomatch answer.symm.trans ended
  · exact completes key text now s.1 early (answer.symm.trans ended)

/-- No call is broken off without a durable tier, or while the ends of lifetimes can be
named. -/
theorem completes_ofFailures {failures : Option (Nat → Option CacheError)} {lifetime : Nat}
    {last : Instant} (namable : failures = none ∨ last + lifetime < Instant.limit) :
    (ofFailures failures).Completes lifetime last := by
  cases failures with
  | none => exact completes_absent lifetime last
  | some failure =>
    have inTime : last + lifetime < Instant.limit := namable.resolve_left nofun
    exact (completes_memory inTime).unreliable failure

/-- Where none of its calls fails, a tier in memory breaks calls off as soon as the ends of
lifetimes cannot be named. -/
theorem breaksOff_ofFailures {lifetime : Nat} {first : Instant}
    (beyond : Instant.limit ≤ first + lifetime) :
    (ofFailures (some fun _ => none)).BreaksOff lifetime first :=
  fun key text now s late => breaksOff_memory beyond key text now s.1 late

end Backend

end ChainActivity
