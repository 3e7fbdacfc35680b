import ChainActivity.Proofs.Cache.Run
import ChainActivity.Proofs.Cache.Turns
import Mathlib.Logic.Relation

/-!
# Calls that produce what is missing

How a call begins that produces what is missing, and what it does once nothing keeps it
waiting.

## Main definitions

* `Cache.populating` — a call past the lock of its domain, and `Cache.finishing`, its end.
* `Machine.Alone` — what becomes of a machine in which one thread takes steps alone.
* `Machine.Proceeds` — whether a call can look for its value and ask its own producer.
* `Machine.QueuesFor` — where a thread can stand that takes one lock.

## Main statements

* `Cache.getOrProduce_eq_acquire`, `Cache.getOrProduce_eq_populating` — how a call begins.
* `Machine.exists_alone_of_only` — a thread that takes its steps alone sees what a run sees.
* `Machine.proceeds_of_populating`, `Machine.proceeds_of_getOrProduce` — a call proceeds that
  has the lock of its domain, or finds it free.
* `Machine.eq_populating_of_waiting` — what a call goes on with that waits.

## Design notes

What a call finds depends on the tiers at the moments of its steps.  `Machine.Proceeds` tells
what it would find if it took its steps at once, so that nothing else has to be said about
the threads around it than that none has the lock.
-/

namespace ChainActivity

namespace Move

variable {κ : Type}

/-- The moves other than taking a lock. -/
def TakesNoLock : Move κ → Prop
  | acquire _ => False
  | access _ | release _ | ask _ => True

/-- The accesses to tiers. -/
def IsAccess : Move κ → Prop
  | access _ => True
  | acquire _ | release _ | ask _ => False

end Move

/-! ### How a call begins and ends -/

namespace Cache

section Parts

variable {κ ε α : Type} (config : CacheConfig) (codec : Codec α) (slot : Slot)

/-- How a call ends: it gives back the lock of an exclusive domain. -/
def finishing (result : Ending (Except ε α)) : Program κ (Except ε α) (Ending (Except ε α)) :=
  if config.isExclusive slot.domain then .release slot.domain (.done result) else .done result

/-- What a call does that has the lock of an exclusive domain, or needs none. -/
def populating (request : κ) : Program κ (Except ε α) (Ending (Except ε α)) :=
  (produceIfMissing config codec slot request).bind (finishing config slot)

/-- In an exclusive domain a call waits for the lock first. -/
theorem getOrProduce_eq_acquire (exclusive : config.isExclusive slot.domain = true)
    (request : κ) :
    (getOrProduce config codec slot request : Program κ (Except ε α) (Ending (Except ε α))) =
      .acquire slot.domain (populating config codec slot request) := by
  have ending : (finishing config slot :
      Ending (Except ε α) → Program κ (Except ε α) (Ending (Except ε α))) =
      fun result => .release slot.domain (.done result) := funext fun _ => if_pos exclusive
  rw [getOrProduce_of_exclusive config codec slot exclusive, populating, ending]

/-- In any other domain it begins at once. -/
theorem getOrProduce_eq_populating (shared : ¬ config.isExclusive slot.domain = true)
    (request : κ) :
    (getOrProduce config codec slot request : Program κ (Except ε α) (Ending (Except ε α))) =
      populating config codec slot request := by
  have ending : (finishing config slot :
      Ending (Except ε α) → Program κ (Except ε α) (Ending (Except ε α))) =
      .done := funext fun _ => if_neg shared
  rw [getOrProduce, if_neg shared, populating, ending, Program.bind_done]

/-- It reads, and goes on with what it found. -/
theorem populating_eq (request : κ) :
    (populating config codec slot request : Program κ (Except ε α) (Ending (Except ε α))) =
      (get config codec slot).bind fun found =>
        (afterGet config codec slot request found).bind (finishing config slot) := by
  rw [populating, produceIfMissing_eq, Program.bind_assoc]

end Parts

variable {κ ε α : Type} {config : CacheConfig} {slot : Slot}

/-- The end of a call makes no other moves than giving back a lock. -/
theorem only_finishing {allowed : Move κ → Prop} (releases : allowed (.release slot.domain))
    (result : Ending (Except ε α)) :
    (finishing config slot result : Program κ (Except ε α) (Ending (Except ε α))).Only allowed := by
  unfold finishing
  split
  · exact ⟨releases, trivial⟩
  · trivial

end Cache

namespace Machine

/-! ### A thread that takes its steps alone -/

/-- What becomes of a machine in which one thread takes steps, any number of them, and
nothing else happens. -/
def Alone {σ κ ρ α : Type} (backend : Backend σ) (j : Nat) :
    Machine σ κ ρ α → Machine σ κ ρ α → Prop :=
  Relation.ReflTransGen fun m m' => m.advance? backend j = some m'

/-- Whether a call that takes its steps alone looks for its value in the tiers as they are,
and ends with the value that it finds, or asks its own producer.  Looking asks no producer,
so it does not matter which one the run has. -/
def Proceeds {σ κ ε α : Type} (backend : Backend σ) (config : CacheConfig) (codec : Codec α)
    (slot : Slot) (request : κ) (m : Machine σ κ (Except ε α) (Ending (Except ε α))) (j : Nat) :
    Prop :=
  ∀ producer : Producer κ (Except ε α),
    let looked := (Cache.get config codec slot).run backend producer ⟨m.now, m.tiers, []⟩
    ∃ final, Alone backend j m final ∧ final.tiers = looked.2.tiers ∧
      match looked.1 with
      | some value => final.threads[j]? = some (.running (.done (.value (.ok value)))) ∧
          final.asked = m.asked
      | none => (∃ next, final.threads[j]? = some (.producing request next)) ∧
          final.asked = m.asked ++ [(j, request)]

section Proceeding

variable {σ κ ε ρ α β : Type} (backend : Backend σ) {j : Nat}

/-- Accesses that a thread makes alone are those of a run without other calls. -/
theorem exists_alone_of_only {p : Program κ ρ β} {f : β → Program κ ρ α} {m : Machine σ κ ρ α}
    (only : p.Only Move.IsAccess) (producer : Producer κ ρ)
    (ready : m.threads[j]? = some (.running (p.bind f))) :
    let ended := p.run backend producer ⟨m.now, m.tiers, []⟩
    ∃ final, Alone backend j m final ∧ final.threads[j]? = some (.running (f ended.1)) ∧
      final.tiers = ended.2.tiers ∧ final.asked = m.asked := by
  induction p generalizing m with
  | done b => exact ⟨m, .refl, ready, rfl, rfl⟩
  | storage step next ih =>
    obtain ⟨final, alone, rest⟩ := ih m.now (step.perform backend m.now m.tiers).1
      (only.2 _ _) (getElem?_accessed_self ready)
    exact ⟨final, .head (advance?_of_storage ready) alone, rest⟩
  | acquire domain next ih => exact absurd only.1 id
  | release domain next ih => exact absurd only.1 id
  | produce request next ih => exact absurd only.1 id

variable {config : CacheConfig} {codec : Codec α} {slot : Slot} {request : κ}
  {m m' : Machine σ κ (Except ε α) (Ending (Except ε α))}

/-- A call that is about to end does so, with one more step at most. -/
theorem exists_of_finishing {result : Ending (Except ε α)}
    (ready : m.threads[j]? = some (.running (Cache.finishing config slot result))) :
    ∃ ended, (ended = m ∨ m.advance? backend j = some ended) ∧
      ended.threads[j]? = some (.running (.done result)) ∧ ended.tiers = m.tiers ∧
      ended.asked = m.asked := by
  unfold Cache.finishing at ready
  split at ready
  · obtain ⟨-, tiers, asked, -⟩ := m.freed_frame j slot.domain (.done result)
    exact ⟨m.freed j slot.domain (.done result), .inr (advance?_of_release ready),
      m.getElem?_freed_self j slot.domain (.done result) ready, tiers, asked⟩
  · exact ⟨m, .inl rfl, ready, rfl, rfl⟩

/-- A call that has the lock of its domain, or needs none, proceeds. -/
theorem proceeds_of_populating
    (ready : m.threads[j]? = some (.running (Cache.populating config codec slot request))) :
    m.Proceeds backend config codec slot request j := by
  intro producer looked
  rw [Cache.populating_eq] at ready
  obtain ⟨read, reads, present, tiers, asked⟩ := exists_alone_of_only backend
    (Cache.only_get (fun _ _ => trivial) codec) producer ready
  change read.tiers = looked.2.tiers at tiers
  change read.threads[j]? = some (.running ((Cache.afterGet config codec slot request
    looked.1).bind _)) at present
  cases found : looked.1 with
  | some value =>
    rw [found] at present
    obtain ⟨ended, ending, there, kept, sent⟩ := exists_of_finishing backend present
    refine ⟨ended, ?_, kept.trans tiers, there, sent.trans asked⟩
    rcases ending with rfl | advanced
    · exact reads
    · exact reads.tail advanced
  | none =>
    rw [found] at present
    have advanced : read.advance? backend j = some (read.sent j request _) :=
      advance?_of_produce present
    refine ⟨_, reads.tail advanced, tiers, ⟨_, getElem?_setThread_self present _⟩, ?_⟩
    change read.asked ++ [(j, request)] = m.asked ++ [(j, request)]
    rw [asked]

/-- So does one that has not begun, if nobody has the lock. -/
theorem proceeds_of_getOrProduce
    (ready : m.threads[j]? = some (.running (Cache.getOrProduce config codec slot request)))
    (free : config.isExclusive slot.domain = true → m.lines slot.domain = []) :
    m.Proceeds backend config codec slot request j := by
  by_cases exclusive : config.isExclusive slot.domain = true
  · rw [Cache.getOrProduce_eq_acquire config codec slot exclusive] at ready
    have present := m.getElem?_queued_self j slot.domain
      (Cache.populating config codec slot request) ready
    rw [free exclusive] at present
    intro producer
    obtain ⟨final, alone, rest⟩ := proceeds_of_populating backend present producer
    exact ⟨final, .head (advance?_of_acquire ready) alone, rest⟩
  · rw [Cache.getOrProduce_eq_populating config codec slot exclusive] at ready
    exact proceeds_of_populating backend ready

end Proceeding

/-! ### Calls that wait -/

section Waiting

variable {σ κ ε ρ α : Type} {backend : Backend σ} {j : Nat}

/-- Whether a thread is about to take a lock, waits for it, or takes no lock any more. -/
def QueuesFor (domain : Domain) (next : Program κ ρ α) (t : Thread κ ρ α) : Prop :=
  t = .running (.acquire domain next) ∨ t = .waiting next ∨
    t.Awake (Program.Only Move.TakesNoLock)

theorem queuesFor_of_onward {domain : Domain} {next : Program κ ρ α}
    (only : next.Only Move.TakesNoLock) (t t' : Thread κ ρ α) (onward : Onward t t')
    (queues : QueuesFor domain next t) : QueuesFor domain next t' := by
  rcases queues with rfl | rfl | awake
  · cases onward with
    | stay => exact .inl rfl
    | acquire => exact .inr (.inr only)
    | queue => exact .inr (.inl rfl)
  · cases onward with
    | stay => exact .inr (.inl rfl)
    | wake => exact .inr (.inr only)
  · refine .inr (.inr ?_)
    cases onward with
    | stay => exact awake
    | wake => exact absurd awake id
    | access now answer => exact awake.2 now answer
    | acquire => exact absurd awake.1 id
    | queue => exact absurd awake.1 id
    | release => exact awake.2
    | ask => exact awake.2
    | reply answer => exact awake answer

/-- A call that waits goes on to look for its value. -/
theorem eq_populating_of_waiting {config : CacheConfig} {codec : Codec α} {slot : Slot}
    {request : κ} {m m' : Machine σ κ (Except ε α) (Ending (Except ε α))}
    {events : List (Event (Except ε α))} {p : Program κ (Except ε α) (Ending (Except ε α))}
    (ran : m.runEvents? backend events = some m')
    (called : m.threads[j]? = some (.running (Cache.getOrProduce config codec slot request)))
    (waits : m'.threads[j]? = some (.waiting p)) :
    p = Cache.populating config codec slot request := by
  have only : (Cache.populating config codec slot request :
      Program κ (Except ε α) (Ending (Except ε α))).Only Move.TakesNoLock :=
    (Cache.only_produceIfMissing (fun _ _ => trivial) codec trivial).bind
      (Cache.only_finishing trivial)
  have begins : QueuesFor slot.domain (Cache.populating config codec slot request)
      (.running (Cache.getOrProduce config codec slot request :
        Program κ (Except ε α) (Ending (Except ε α)))) := by
    by_cases exclusive : config.isExclusive slot.domain = true
    · exact .inl (congrArg _ (Cache.getOrProduce_eq_acquire config codec slot exclusive request))
    · rw [Cache.getOrProduce_eq_populating config codec slot exclusive]
      exact .inr (.inr only)
  obtain ⟨t, here, queues⟩ :=
    thread_of_runEvents? (queuesFor_of_onward only) ran called begins
  obtain rfl := Option.some.inj (here.symm.trans waits)
  rcases queues with same | same | awake
  · exact nomatch same
  · exact Thread.waiting.inj same
  · exact absurd awake id

end Waiting

end Machine

end ChainActivity
