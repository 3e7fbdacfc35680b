import ChainActivity.Cache.Machine

/-!
# Concurrent calls in time

A timeline is one particular run of a machine: whoever can go on does so at once, in
the order in which this became possible, and time passes only when everybody waits.

## Main definitions

* `Timeline` — a machine, the threads that can go on, and the ends of producers.
* `Timeline.step?` — what happens next; `none` at the end.
* `Timeline.run` — all calls, begun at one moment.
-/

namespace ChainActivity

/-- One run of a machine. -/
structure Timeline (σ κ ρ α : Type) where
  machine : Machine σ κ ρ α
  /-- The threads that can go on, next one first. -/
  ready : List Nat
  /-- The moments at which producers end, in the order in which they began. -/
  ends : List (Instant × Nat)

namespace Timeline

variable {σ κ ρ α : Type}

/-- The earliest of some moments. -/
def earliest : List (Instant × Nat) → Option Instant
  | [] => none
  | (t, _) :: rest =>
    match earliest rest with
    | none => some t
    | some u => some (min t u)

/-- The thread that gets the lock when a thread gives it back. -/
def successor? (m : Machine σ κ ρ α) (i : Nat) : Option Nat :=
  match m.threads[i]? with
  | some (.running (.release domain _)) => (m.lines domain)[1]?
  | _ => none

/-- Lets the first ready thread go on. -/
def stepReady (backend : Backend σ) (producer : Producer κ ρ) (s : Timeline σ κ ρ α)
    (i : Nat) (rest : List Nat) : Timeline σ κ ρ α :=
  match s.machine.threads[i]? with
  | some (.producing request _) =>
    if producer.duration request = 0 then
      { s with machine := (s.machine.reply? i (producer.reply request)).getD s.machine }
    else
      { s with ready := rest, ends := s.ends ++ [(s.machine.now + producer.duration request, i)] }
  | _ =>
    match s.machine.advance? backend i with
    | some machine => { s with machine, ready := i :: rest ++ (successor? s.machine i).toList }
    | none => { s with ready := rest }

/-- The producer of a thread replies. -/
def replyTo (producer : Producer κ ρ) (m : Machine σ κ ρ α) (i : Nat) : Machine σ κ ρ α :=
  match m.threads[i]? with
  | some (.producing request _) => (m.reply? i (producer.reply request)).getD m
  | _ => m

/-- Lets time pass until the next producer ends, and all that end at that moment
reply. -/
def stepTime (producer : Producer κ ρ) (s : Timeline σ κ ρ α) (next : Instant) :
    Timeline σ κ ρ α :=
  let due := (s.ends.filter fun e => e.1 = next).map (·.2)
  let later := s.machine.pass (next - s.machine.now).toNat
  { machine := due.foldl (replyTo producer) later
    ready := due
    ends := s.ends.filter fun e => e.1 ≠ next }

/-- What happens next. -/
def step? (backend : Backend σ) (producer : Producer κ ρ) (s : Timeline σ κ ρ α) :
    Option (Timeline σ κ ρ α) :=
  match s.ready with
  | i :: rest => some (s.stepReady backend producer i rest)
  | [] => (earliest s.ends).map (s.stepTime producer)

/-- At most so many steps. -/
def steps (backend : Backend σ) (producer : Producer κ ρ) :
    Nat → Timeline σ κ ρ α → Timeline σ κ ρ α
  | 0, s => s
  | n + 1, s =>
    match s.step? backend producer with
    | none => s
    | some t => steps backend producer n t

/-- More steps than a call of the cache has, with those of its thread around it. -/
def stepsPerCall : Nat := 24

/-- All calls, begun at one moment in the order of the list. -/
def run (backend : Backend σ) (producer : Producer κ ρ) (now : Instant) (tiers : Tiers σ)
    (programs : List (Program κ ρ α)) : Machine σ κ ρ α :=
  let start : Timeline σ κ ρ α :=
    ⟨.start now tiers programs, List.range programs.length, []⟩
  (steps backend producer (stepsPerCall * programs.length) start).machine

end Timeline

end ChainActivity
