import ChainActivity.Cache.Timeline
import ChainActivity.Proofs.Cache.Threads

/-!
# Timelines are runs of machines

A timeline decides which of the possible events happens next.  What it leads to is the end of
a run of its machine, so that all that is proved about runs of machines holds for it.

## Main definitions

* `Machine.Reaches` — whether events lead from a machine to another one, in which producers
  reply as some producer does.

## Main statements

* `Timeline.reaches_step?` — a step of a timeline is a run of its machine.
* `Timeline.reaches_run` — so is the whole timeline.
* `Timeline.invariant_run` — what every step of a machine preserves holds at its end.
-/

namespace ChainActivity

variable {σ κ ρ α : Type} {backend : Backend σ} {producer : Producer κ ρ}

/-! ### Runs that follow a producer -/

namespace Machine

/-- Whether events lead from a machine to another one.  What producers reply is what some producer
does. -/
def Reaches (backend : Backend σ) (producer : Producer κ ρ) (m n : Machine σ κ ρ α) : Prop :=
  ∃ events, m.runEvents? backend events = some n ∧
    ∀ i answer, Event.reply i answer ∈ events → ∃ request, answer = producer.reply request

namespace Reaches

variable {m n o : Machine σ κ ρ α} {i : Nat}

theorem refl (m : Machine σ κ ρ α) : m.Reaches backend producer m :=
  ⟨[], rfl, nofun⟩

/-- One run after the other. -/
theorem trans (first : m.Reaches backend producer n) (second : n.Reaches backend producer o) :
    m.Reaches backend producer o := by
  obtain ⟨events, ran, faithful⟩ := first
  obtain ⟨later, goes, faithful'⟩ := second
  refine ⟨events ++ later, ?_, ?_⟩
  · rw [runEvents?_append, ran, Option.bind_some, goes]
  · intro i answer member
    rcases List.mem_append.mp member with early | late
    · exact faithful i answer early
    · exact faithful' i answer late

/-- One event, whose reply, if it is one, is that of the producer. -/
theorem of_step? (event : Event ρ) (step : m.step? backend event = some n)
    (faithful : ∀ i answer, event = .reply i answer → ∃ request, answer = producer.reply request) :
    m.Reaches backend producer n := by
  refine ⟨[event], ?_, fun i answer member => ?_⟩
  · rw [runEvents?_cons, step, Option.bind_some]
    rfl
  · exact faithful i answer (List.mem_singleton.mp member).symm

/-- A reply of the producer, if it is expected. -/
theorem getD_reply? (m : Machine σ κ ρ α) (i : Nat) (request : κ) :
    m.Reaches backend producer ((m.reply? i (producer.reply request)).getD m) := by
  rcases step : m.reply? i (producer.reply request) with _ | n
  · exact refl m
  · refine of_step? (.reply i (producer.reply request)) step ?_
    rintro _ _ ⟨⟩
    exact ⟨request, rfl⟩

theorem of_pass (m : Machine σ κ ρ α) (duration : Nat) :
    m.Reaches backend producer (m.pass duration) :=
  of_step? (.pass duration) rfl nofun

end Reaches

end Machine

/-! ### Timelines -/

namespace Timeline

variable (s : Timeline σ κ ρ α)

/-- A thread that can go on takes a step of its own, gets its reply, or begins to wait. -/
theorem reaches_stepReady (i : Nat) (rest : List Nat) :
    s.machine.Reaches backend producer (s.stepReady backend producer i rest).machine := by
  unfold stepReady
  split
  · next request next asked =>
    split
    · exact .getD_reply? s.machine i request
    · exact .refl s.machine
  · split
    · next machine step => exact .of_step? (.advance i) step nofun
    · exact .refl s.machine

/-- Any number of producers reply. -/
theorem reaches_foldl_replyTo (due : List Nat) (m : Machine σ κ ρ α) :
    m.Reaches backend producer (due.foldl (replyTo producer) m) := by
  induction due generalizing m with
  | nil => exact .refl m
  | cons i rest ih =>
    have replied : m.Reaches backend producer (replyTo producer m i) := by
      unfold replyTo
      split
      · next request next asked => exact .getD_reply? m i request
      · exact .refl m
    exact replied.trans (ih (replyTo producer m i))

/-- Time passes, and then the producers reply that end. -/
theorem reaches_stepTime (next : Instant) :
    s.machine.Reaches backend producer (s.stepTime producer next).machine :=
  (Machine.Reaches.of_pass s.machine (next - s.machine.now).toNat).trans
    (reaches_foldl_replyTo _ _)

/-- A step of a timeline is a run of its machine. -/
theorem reaches_step? {s t : Timeline σ κ ρ α} (step : s.step? backend producer = some t) :
    s.machine.Reaches backend producer t.machine := by
  unfold step? at step
  split at step
  · next i rest ready =>
    obtain rfl := Option.some.inj step
    exact reaches_stepReady s i rest
  · obtain ⟨next, -, rfl⟩ := Option.map_eq_some_iff.mp step
    exact reaches_stepTime s next

/-- So are any number of steps. -/
theorem reaches_steps (n : Nat) (s : Timeline σ κ ρ α) :
    s.machine.Reaches backend producer (steps backend producer n s).machine := by
  induction n generalizing s with
  | zero => exact .refl s.machine
  | succ n ih =>
    rw [steps]
    split
    · exact .refl s.machine
    · next t step => exact (reaches_step? step).trans (ih t)

/-- All calls, begun at one moment, are a run of the machine that has them as its threads. -/
theorem reaches_run (now : Instant) (tiers : Tiers σ) (programs : List (Program κ ρ α)) :
    (Machine.start now tiers programs).Reaches backend producer
      (run backend producer now tiers programs) :=
  reaches_steps (Timeline.stepsPerCall * programs.length)
    ⟨.start now tiers programs, List.range programs.length, []⟩

/-- What holds at the start and is preserved by every step of a machine holds at the end of a
timeline. -/
theorem invariant_run {P : Machine σ κ ρ α → Prop} {now : Instant} {tiers : Tiers σ}
    {programs : List (Program κ ρ α)} (initial : P (.start now tiers programs))
    (preserved : ∀ m event n, P m → m.step? backend event = some n → P n) :
    P (run backend producer now tiers programs) := by
  have reaches : (Machine.start now tiers programs).Reaches backend producer
      (run backend producer now tiers programs) := reaches_run now tiers programs
  obtain ⟨events, ran, -⟩ := reaches
  exact Machine.invariant_of_runEvents? ran initial fun m n event _ _ => preserved m event n

end Timeline

end ChainActivity
