import ChainActivity.Proofs.Cache.PlainMap

/-!
# Sequences of cache calls

The calls of one cache, carried out one after the other at any moments, and what they
make of a plain map.

## Main definitions

* `Operation` — a call of the cache, or the passing of time.
* `Operation.run`, `Operation.runAll` — what operations make of a session.
* `Operation.apply`, `Operation.applyAll` — what they make of a plain map.
* `Session.get?`, `Session.peek?` — what reading a slot answers.

## Main statements

* `Session.Agrees.run`, `Session.Agrees.runAll` — operations follow the plain map.
* `Operation.answers_runAll` — the answers of a cache after any operations.

## Design notes

Every operation brings the type of its values with it, so one sequence may store and
read values of many types.  A request to a producer is the slot that it is for; the
requests of a session then say for which slots producers ran.
-/

namespace ChainActivity

/-- A producer that replies at once. -/
def Producer.instant {κ ρ : Type} (reply : ρ) : Producer κ ρ :=
  ⟨fun _ => reply, fun _ => 0⟩

/-- A call of the cache that is carried out at one moment, or the passing of time. -/
inductive Operation : Type 1 where
  | set {α : Type} (codec : Codec α) (slot : Slot) (value : α)
  | get {α : Type} (codec : Codec α) (slot : Slot)
  | peek {α : Type} (codec : Codec α) (slot : Slot)
  | getOrProduce {α ε : Type} (codec : Codec α) (slot : Slot) (reply : Except ε α)
  | clear
  | pass (duration : Nat)

namespace Session

variable {α σ : Type}

/-- What reading a slot answers. -/
def get? (config : CacheConfig) (backend : Backend σ) (s : Session Slot σ) (codec : Codec α)
    (slot : Slot) : Option α :=
  ((Cache.get config codec slot).run backend (.instant ()) s).1

/-- What peeking at a slot answers. -/
def peek? (config : CacheConfig) (backend : Backend σ) (s : Session Slot σ) (codec : Codec α)
    (slot : Slot) : Option α :=
  ((Cache.peek config codec slot).run backend (.instant ()) s).1

end Session

namespace Operation

variable {σ : Type} (config : CacheConfig) (backend : Backend σ)

/-- What an operation makes of a session. -/
def run (s : Session Slot σ) : Operation → Session Slot σ
  | set codec slot value => ((Cache.set config codec slot value).run backend (.instant ()) s).2
  | get codec slot => ((Cache.get config codec slot).run backend (.instant ()) s).2
  | peek codec slot => ((Cache.peek config codec slot).run backend (.instant ()) s).2
  | getOrProduce codec slot reply =>
    ((Cache.getOrProduce config codec slot slot).run backend (.instant reply) s).2
  | clear => (Cache.clear.run backend (.instant ()) s).2
  | pass duration => { s with now := s.now + duration }

/-- What operations make of a session, one after the other. -/
def runAll (s : Session Slot σ) (operations : List Operation) : Session Slot σ :=
  operations.foldl (run config backend) s

/-- What an operation makes of a plain map. -/
def apply (m : PlainMap) : Operation → PlainMap
  | set codec slot value => m.store codec slot value
  | getOrProduce codec slot reply => m.getOrProduce config codec slot reply 0
  | pass duration => m.pass duration
  | get _ _ | peek _ _ | clear => m

/-- What operations make of a plain map, one after the other. -/
def applyAll (m : PlainMap) (operations : List Operation) : PlainMap :=
  operations.foldl (apply config) m

/-- The slot in which an operation may store a value. -/
def written? : Operation → Option Slot
  | set _ slot _ | getOrProduce _ slot _ => some slot
  | get _ _ | peek _ _ | clear | pass _ => none

/-- Whether an operation is a call, which takes no time. -/
def isCall : Operation → Bool
  | pass _ => false
  | _ => true

/-- A call touches no slot but the one in which it stores. -/
theorem apply_of_written?_ne (m : PlainMap) {operation : Operation} {slot : Slot}
    (call : operation.isCall = true) (other : operation.written? ≠ some slot) :
    (operation.apply config m).now = m.now ∧
      (operation.apply config m).stored slot = m.stored slot := by
  cases operation with
  | set codec t value =>
    have apart : slot ≠ t := fun same => other (congrArg some same.symm)
    exact ⟨m.now_store codec t value, m.stored_store_of_ne codec apart value⟩
  | getOrProduce codec t reply =>
    have apart : slot ≠ t := fun same => other (congrArg some same.symm)
    rw [apply]
    refine ⟨m.now_getOrProduce_zero config codec t reply, ?_⟩
    unfold PlainMap.getOrProduce
    split
    · rfl
    · rfl
    · exact PlainMap.stored_store_of_ne _ codec apart _
  | get codec t => exact ⟨rfl, rfl⟩
  | peek codec t => exact ⟨rfl, rfl⟩
  | clear => exact ⟨rfl, rfl⟩
  | pass duration => exact absurd call Bool.false_ne_true

end Operation

/-! ### Sessions follow plain maps -/

namespace Session.Agrees

variable {σ : Type} {config : CacheConfig} {backend : Backend σ} {kept : σ → ExpiringTexts}
  {m : PlainMap} {s : Session Slot σ} (law : backend.KeepsAtMost kept)
include law

/-- One operation follows the plain map. -/
theorem run (agrees : Agrees config kept m s) (operation : Operation) :
    Agrees config kept (operation.apply config m) (operation.run config backend s) := by
  cases operation with
  | set codec slot value => exact (agrees.run_set law _ codec slot value).1
  | get codec slot => exact (agrees.run_get law _ codec slot).2.1
  | peek codec slot => exact (agrees.run_peek law _ codec slot).2.1
  | getOrProduce codec slot reply =>
    exact (agrees.run_getOrProduce law (.instant reply) codec slot slot).2.1
  | clear => exact agrees.run_clear law _
  | pass duration => exact agrees.pass duration s.asked

/-- Operations follow the plain map, however many there are. -/
theorem runAll (agrees : Agrees config kept m s) (operations : List Operation) :
    Agrees config kept (Operation.applyAll config m operations)
      (Operation.runAll config backend s operations) := by
  induction operations generalizing m s with
  | nil => exact agrees
  | cons operation rest ih => exact ih (agrees.run law operation)

/-- What reading and peeking answer can be read off the map. -/
theorem answers (agrees : Agrees config kept m s) {α : Type} (codec : Codec α) (slot : Slot) :
    s.get? config backend codec slot = m.get? config codec slot ∧
      s.peek? config backend codec slot = m.peek? codec slot :=
  ⟨(agrees.run_get law _ codec slot).1, (agrees.run_peek law _ codec slot).1⟩

end Session.Agrees

namespace Operation

/-- The answers of a cache that has its durable tier to itself, after any operations and
whichever calls of that tier fail.  A value that was stored last in a slot, and that
can be read back, is read while it is young and peeked at any age; where nothing was
stored there is nothing to read.  A producer is asked exactly when there is nothing to
read, and its reply is the answer unless the end of its lifetime cannot be named.  No call
changes the answers for a slot in which it does not store, and neither reading nor emptying
the cache stores. -/
theorem answers_runAll (config : CacheConfig) (failures : Option (Nat → Option CacheError))
    (now : Instant) (operations : List Operation) :
    let backend := Backend.ofFailures failures
    let s := runAll config backend (.fresh now) operations
    let m := applyAll config (.fresh now) operations
    (∀ (slot : Slot) (v : Stored), m.stored slot = some v → v.codec.decode v.text = some v.value →
      s.get? config backend v.codec slot =
          (if s.now - v.since < config.lifetime slot.domain then some v.value else none) ∧
        s.peek? config backend v.codec slot = some v.value) ∧
    (∀ slot : Slot, m.stored slot = none → ∀ (α : Type) (codec : Codec α),
      s.get? config backend codec slot = none ∧ s.peek? config backend codec slot = none) ∧
    (∀ (ε α : Type) (codec : Codec α) (slot : Slot) (reply : Except ε α),
      let after := (Cache.getOrProduce config codec slot slot).run backend (.instant reply) s
      match s.get? config backend codec slot with
      | some value => after.1 = .value (.ok value) ∧ after.2.asked = s.asked
      | none =>
        (after.1 = .value reply ∨
          after.1 = .broken ∧ failures ≠ none ∧
            Instant.limit ≤ s.now + config.lifetime slot.domain) ∧
        after.2.asked = s.asked ++ [slot]) ∧
    (∀ (operation : Operation) (slot : Slot), operation.isCall = true →
      operation.written? ≠ some slot → ∀ (α : Type) (codec : Codec α),
        (operation.run config backend s).get? config backend codec slot =
            s.get? config backend codec slot ∧
          (operation.run config backend s).peek? config backend codec slot =
            s.peek? config backend codec slot) := by
  intro backend s m
  have law := Backend.keepsAtMost_ofFailures failures
  have agrees : s.Agrees config (Backend.keptTexts failures) m :=
    (Session.Agrees.fresh config failures now).runAll law operations
  refine ⟨?_, ?_, ?_, ?_⟩
  · intro slot v stored readable
    obtain ⟨reading, peeking⟩ := agrees.answers law v.codec slot
    rw [reading, peeking, PlainMap.get?, PlainMap.peek?, stored, agrees.now]
    exact ⟨by simp only [readable], readable⟩
  · intro slot missing α codec
    obtain ⟨reading, peeking⟩ := agrees.answers law codec slot
    rw [reading, peeking, PlainMap.get?, PlainMap.peek?, missing]
    exact ⟨rfl, rfl⟩
  · intro ε α codec slot reply after
    obtain ⟨answer, following, requests⟩ :=
      agrees.run_getOrProduce law (.instant reply) codec slot slot
    have instantly : after.2.now = s.now :=
      (following.now.trans (m.now_getOrProduce_zero config codec slot reply)).trans agrees.now.symm
    rw [(agrees.answers law codec slot).1]
    rcases found : m.get? config codec slot with _ | value
    · rw [found] at answer requests
      refine ⟨?_, requests⟩
      rcases answer with replied | ⟨ended, -⟩
      · exact .inl replied
      refine .inr ⟨ended, ?_⟩
      have unnamable := mt Backend.completes_ofFailures (Cache.not_completes_of_run_getOrProduce
        config backend (.instant reply) codec slot slot s ended)
      change ¬ (_ ∨ after.2.now + _ < _) at unnamable
      rw [instantly, not_or, Int.not_lt] at unnamable
      exact unnamable
    · rw [found] at answer requests
      rcases answer with known | ⟨-, missing⟩
      · exact ⟨known, requests⟩
      · cases missing
  · intro operation slot call other α codec
    obtain ⟨reading, peeking⟩ := agrees.answers law codec slot
    obtain ⟨reading', peeking'⟩ := (agrees.run law operation).answers law codec slot
    obtain ⟨times, values⟩ := apply_of_written?_ne config m call other
    rw [reading, peeking, reading', peeking']
    exact ⟨PlainMap.get?_congr times values config codec, PlainMap.peek?_congr values codec⟩

/-- A value that only the near tier has is read until its last nanosecond, also after
the cache was emptied; its neighbour in the same domain stays empty. -/
theorem answers_runAll_of_failed_store :
    let slot : Slot := ⟨.economics, some "a:b"⟩
    let texts : Codec String := ⟨.ok, some⟩
    let backend := Backend.ofFailures (some fun n => if n = 0 then some Faults.error else none)
    let s := runAll .standard backend (.fresh 0)
      [.set texts slot "18", .pass (Duration.seconds 600 - 1)]
    s.get? .standard backend texts slot = some "18" ∧
      (clear.run .standard backend s).get? .standard backend texts slot = some "18" ∧
      s.get? .standard backend texts ⟨.economics, some "a"⟩ = none := by
  intro slot texts backend s
  obtain ⟨stored, missing, -, untouched⟩ := answers_runAll .standard
    (some fun n => if n = 0 then some Faults.error else none) 0
    [.set texts slot "18", .pass (Duration.seconds 600 - 1)]
  have value : s.get? .standard backend texts slot = some "18" := by
    have answer := (stored slot ⟨texts, "18", "18", rfl, 0⟩ rfl rfl).1
    exact answer.trans (if_pos (by decide))
  have cleared := (untouched clear slot rfl (by decide) String texts).1
  exact ⟨value, cleared.trans value, (missing ⟨.economics, some "a"⟩ rfl String texts).1⟩

end Operation

end ChainActivity
