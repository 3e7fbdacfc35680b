import ChainActivity.Cache.Basic

/-!
# Calls of the cache without others in between

What each call of the cache answers and leaves behind when no other call takes place
while it is under way, over any durable tier.

## Main definitions

* `Session.near?` — the near entry of a slot.
* `Session.stored` — a session after a text was written to both tiers.
* `Session.storing` — how the durable tier ends the call that stores a text.

## Main statements

* `Program.now_le_run` — time does not run backwards.
* `Cache.run_lookup_of_usable`, `Cache.run_lookup_of_not_usable` — a near entry that may
  be used decides; otherwise the durable tier is asked.
* `Cache.run_fetch_of_not_found` — a durable tier that has nothing is only asked.
* `Cache.run_set_of_encode`, `Cache.run_set_of_error` — what storing a value changes.
* `Cache.run_getOrProduce_of_some`, `Cache.run_getOrProduce_of_none` — the producer is
  asked when reading gives nothing.

## Design notes

A run passes over locks, so the calls of an exclusive domain and of an ordinary one
have the same runs.
-/

namespace ChainActivity

namespace Session

variable {κ σ : Type}

/-- The near entry of a slot. -/
def near? (config : CacheConfig) (s : Session κ σ) (slot : Slot) : Option LocalEntry :=
  s.tiers.near.get? (config.key slot)

/-- A session after a text was written to both tiers, the second of which may refuse it. -/
def stored (config : CacheConfig) (backend : Backend σ) (s : Session κ σ) (slot : Slot)
    (text : String) : Session κ σ :=
  { s with tiers :=
      ⟨s.tiers.near.insert (config.key slot) ⟨text, s.now⟩,
        (backend.set (config.key slot) text (config.lifetime slot.domain) s.now
          s.tiers.durable).2⟩ }

/-- How the durable tier ends the call that stores a text. -/
def storing (config : CacheConfig) (backend : Backend σ) (s : Session κ σ) (slot : Slot)
    (text : String) : Ending (Except CacheError Unit) :=
  (backend.set (config.key slot) text (config.lifetime slot.domain) s.now s.tiers.durable).1

/-- A session after the durable tier was asked for a slot. -/
def asking (config : CacheConfig) (backend : Backend σ) (s : Session κ σ) (slot : Slot) :
    Session κ σ :=
  { s with tiers :=
      ⟨s.tiers.near, (backend.get (config.key slot) s.now s.tiers.durable).2⟩ }

/-- A session after a producer was asked. -/
def producing {ρ : Type} (s : Session κ σ) (producer : Producer κ ρ) (request : κ) :
    Session κ σ :=
  { s with now := s.now + producer.duration request, asked := s.asked ++ [request] }

end Session

/-- A call ends no earlier than it starts. -/
theorem Program.now_le_run {κ ρ α σ : Type} (backend : Backend σ) (producer : Producer κ ρ)
    (p : Program κ ρ α) (s : Session κ σ) : s.now ≤ (p.run backend producer s).2.now := by
  induction p generalizing s with
  | done a => exact Int.le_refl _
  | storage step next ih => exact ih _ _ _
  | acquire domain next ih => exact ih _
  | release domain next ih => exact ih _
  | produce request next ih =>
    have later : s.now ≤ s.now + producer.duration request :=
      Int.le_add_of_nonneg_right (Int.natCast_nonneg _)
    exact Int.le_trans later (ih _ _)

namespace Cache

variable {κ ρ ε α σ : Type} (config : CacheConfig) (backend : Backend σ)

section Reading

variable (producer : Producer κ ρ) (codec : Codec α) (slot : Slot) {s : Session κ σ}

/-- A durable tier that has no text, or fails, is only asked. -/
theorem run_fetch_of_not_found
    (absent : ∀ text, (backend.get (config.key slot) s.now s.tiers.durable).1 ≠ .ok (some text)) :
    (fetch config codec slot).run backend producer s = (none, s.asking config backend slot) := by
  rcases found : backend.get (config.key slot) s.now s.tiers.durable with ⟨answer, durable⟩
  rw [found] at absent
  rw [Session.asking, found]
  change (Program.bind _ _).run backend producer s = _
  rw [Program.run_bind]
  simp only [Program.access, Program.run, StorageStep.perform, found]
  cases answer with
  | error e => rfl
  | ok text? =>
    cases text? with
    | none => rfl
    | some text => exact absurd rfl (absent text)

/-- A near entry that may be used decides, whether it can be read or not. -/
theorem run_lookup_of_usable {maxAge : Option Nat} {entry : LocalEntry}
    (present : s.near? config slot = some entry)
    (usable : isUsable s.now maxAge entry = true) :
    (lookup config codec slot maxAge).run backend producer s = (codec.decode entry.text, s) := by
  change (Program.bind _ _).run backend producer s = _
  rw [Session.near?] at present
  rw [Program.run_bind]
  simp only [Program.access, Program.run, StorageStep.perform, present, usable, if_true]
  rfl

/-- Without a near entry that may be used the durable tier is asked. -/
theorem run_lookup_of_not_usable {maxAge : Option Nat}
    (unusable : ∀ entry, s.near? config slot = some entry →
      isUsable s.now maxAge entry = false) :
    (lookup config codec slot maxAge).run backend producer s =
      (fetch config codec slot).run backend producer s := by
  change (Program.bind _ _).run backend producer s = _
  rw [Program.run_bind]
  simp only [Session.near?] at unusable
  rcases present : s.tiers.near.get? (config.key slot) with _ | entry
  · simp only [Program.access, Program.run, StorageStep.perform, present]
  · have old := unusable entry present
    simp only [Program.access, Program.run, StorageStep.perform, present, old, if_false,
      Bool.false_eq_true]

end Reading

section Writing

variable (producer : Producer κ ρ) (codec : Codec α) (slot : Slot) (value : α) (s : Session κ σ)

/-- A value that can be written is stored in both tiers; only the durable one can break the
call off. -/
theorem run_set_of_encode {text : String} (written : codec.encode value = .ok text) :
    (set config codec slot value).run backend producer s =
      ((s.storing config backend slot text).map fun _ => .ok (),
        s.stored config backend slot text) := by
  rw [set, written]
  rfl

/-- A value that cannot be written is not stored. -/
theorem run_set_of_error {reason : String} (refused : codec.encode value = .error reason) :
    (set config codec slot value).run backend producer s =
      (.value (.error (.serialization reason)), s) := by
  rw [set, refused]
  rfl

/-- Only a durable tier that does not complete its calls breaks off the storing of a value. -/
theorem not_completes_of_run_set
    (ended : ((set config codec slot value).run backend producer s).1 = .broken) :
    ¬ backend.Completes (config.lifetime slot.domain)
      ((set config codec slot value).run backend producer s).2.now := by
  intro completes
  rcases written : codec.encode value with reason | text
  · rw [run_set_of_error config backend producer codec slot value s written] at ended
    exact nomatch ended
  · rw [run_set_of_encode config backend producer codec slot value s written] at ended completes
    have stopped : s.storing config backend slot text = .broken :=
      (Ending.map_eq_broken_iff ..).mp ended
    exact completes _ _ _ _ (Int.le_refl s.now) stopped

/-- Emptying the cache changes the durable tier only. -/
theorem run_clear :
    clear.run backend producer s =
      ((backend.flush s.now s.tiers.durable).1,
        { s with tiers := ⟨s.tiers.near, (backend.flush s.now s.tiers.durable).2⟩ }) :=
  rfl

end Writing

section Producing

variable (producer : Producer κ (Except ε α)) (codec : Codec α) (slot : Slot) (request : κ)
  (s : Session κ σ)

/-- A run passes over the lock of an exclusive domain. -/
theorem run_getOrProduce :
    (getOrProduce config codec slot request).run backend producer s =
      (produceIfMissing config codec slot request).run backend producer s := by
  rw [getOrProduce]
  split
  · change (Program.bind (produceIfMissing config codec slot request) _).run backend producer s = _
    rw [Program.run_bind]
    rfl
  · rfl

/-- A value that can be read is the answer, and no producer is asked. -/
theorem run_getOrProduce_of_some {value : α}
    (found : ((get config codec slot).run backend producer s).1 = some value) :
    (getOrProduce config codec slot request).run backend producer s =
      (.value (.ok value), ((get config codec slot).run backend producer s).2) := by
  rw [run_getOrProduce]
  change (Program.bind (get config codec slot) _).run backend producer s = _
  rw [Program.run_bind, found]
  rfl

/-- If nothing can be read the producer is asked, and its value is stored. -/
theorem run_getOrProduce_of_none
    (missing : ((get config codec slot).run backend producer s).1 = none) :
    (getOrProduce config codec slot request).run backend producer s =
      let after := ((get config codec slot).run backend producer s).2.producing producer request
      match producer.reply request with
      | .error e => (.value (.error e), after)
      | .ok value =>
        let stored := (set config codec slot value).run backend producer after
        (stored.1.map fun _ => .ok value, stored.2) := by
  rw [run_getOrProduce]
  change (Program.bind (get config codec slot) _).run backend producer s = _
  rw [Program.run_bind, missing]
  change (Program.bind _ _).run backend producer _ = _
  rw [Program.run_bind]
  simp only [Program.ask, Program.run, Session.producing]
  cases producer.reply request with
  | error e => rfl
  | ok value =>
    change (Program.bind (set config codec slot value) _).run backend producer _ = _
    rw [Program.run_bind]
    rfl

/-- Only a durable tier that does not complete its calls breaks off the production of a value. -/
theorem not_completes_of_run_getOrProduce
    (ended : ((getOrProduce config codec slot request).run backend producer s).1 = .broken) :
    ¬ backend.Completes (config.lifetime slot.domain)
      ((getOrProduce config codec slot request).run backend producer s).2.now := by
  rcases found : ((get config codec slot).run backend producer s).1 with _ | value
  · rw [run_getOrProduce_of_none config backend producer codec slot request s found] at ended ⊢
    rcases reply : producer.reply request with e | value
    · simp only [reply] at ended
      exact nomatch ended
    · simp only [reply] at ended ⊢
      exact not_completes_of_run_set config backend producer codec slot value _
        ((Ending.map_eq_broken_iff ..).mp ended)
  · rw [run_getOrProduce_of_some config backend producer codec slot request s found] at ended
    exact nomatch ended

/-- Where the producer has a value the answer is a value, though perhaps another one. -/
theorem exists_ok_of_run_getOrProduce {value : α} {answer : Except ε α}
    (replied : producer.reply request = .ok value)
    (ended : ((getOrProduce config codec slot request).run backend producer s).1 = .value answer) :
    ∃ v, answer = .ok v := by
  rcases found : ((get config codec slot).run backend producer s).1 with _ | v
  · rw [run_getOrProduce_of_none config backend producer codec slot request s found] at ended
    simp only [replied] at ended
    rcases stored : ((set config codec slot value).run backend producer _).1 with _ | _
    · rw [stored] at ended
      exact ⟨value, (Ending.value.inj ended).symm⟩
    · rw [stored] at ended
      exact nomatch ended
  · rw [run_getOrProduce_of_some config backend producer codec slot request s found] at ended
    exact ⟨v, (Ending.value.inj ended).symm⟩

/-- A durable tier that breaks off what is stored breaks off the production of a value that is
missing. -/
theorem run_getOrProduce_of_breaksOff {value : α} {text : String}
    (missing : ((get config codec slot).run backend producer s).1 = none)
    (replied : producer.reply request = .ok value) (written : codec.encode value = .ok text)
    (breaks : backend.BreaksOff (config.lifetime slot.domain) s.now) :
    ((getOrProduce config codec slot request).run backend producer s).1 = .broken := by
  have later : s.now ≤ (((get config codec slot).run backend producer s).2.producing producer
      request).now :=
    Int.le_trans (Program.now_le_run backend producer (get config codec slot) s)
      (Int.le_add_of_nonneg_right (Int.natCast_nonneg _))
  rw [run_getOrProduce_of_none config backend producer codec slot request s missing]
  simp only [replied]
  rw [run_set_of_encode config backend producer codec slot value _ written, Session.storing,
    breaks _ _ _ _ later]
  rfl

end Producing

end Cache

end ChainActivity
