import ChainActivity.Cache.Program

/-!
# Concurrent calls

Several calls of one cache may be under way at a time.  A machine holds them as
threads and lets one of them take one step after the other, in any order.

## Main definitions

* `Thread` — a call that is under way.
* `Machine` — all calls, the tiers, and the lines of threads that want a lock.
* `Machine.Event`, `Machine.step?` — what can happen next.
* `Machine.runEvents?` — a whole run.

## Design notes

The threads that want the lock of a domain stand in a line, and the head of the line
holds the lock.  So a lock goes to whoever asked first, and it is held exactly while
the line is not empty.
-/

namespace ChainActivity

/-- A call that is under way. -/
inductive Thread (κ ρ α : Type) where
  /-- It can take its next step. -/
  | running (program : Program κ ρ α)
  /-- It stands in the line for a lock, and goes on with the program when it has it. -/
  | waiting (program : Program κ ρ α)
  /-- Its producer is at work on a request. -/
  | producing (request : κ) (next : ρ → Program κ ρ α)

/-- The value of a thread that has ended. -/
def Thread.value? {κ ρ α : Type} : Thread κ ρ α → Option α
  | running (.done a) => some a
  | _ => none

/-- Several calls of one cache. -/
structure Machine (σ κ ρ α : Type) where
  now : Instant
  tiers : Tiers σ
  /-- The threads that want the lock of a domain; the first of them holds it. -/
  lines : Domain → List Nat
  threads : List (Thread κ ρ α)
  /-- The requests to producers, in order, with the threads that sent them. -/
  asked : List (Nat × κ)

namespace Machine

variable {σ κ ρ α : Type}

/-- Nothing has happened yet. -/
def start (now : Instant) (tiers : Tiers σ) (programs : List (Program κ ρ α)) :
    Machine σ κ ρ α where
  now := now
  tiers := tiers
  lines _ := []
  threads := programs.map .running
  asked := []

/-- Puts a thread into a state. -/
def setThread (m : Machine σ κ ρ α) (i : Nat) (t : Thread κ ρ α) : Machine σ κ ρ α :=
  { m with threads := m.threads.set i t }

/-- Gives the line of a domain new members. -/
def setLine (m : Machine σ κ ρ α) (domain : Domain) (line : List Nat) : Machine σ κ ρ α :=
  { m with lines := fun d => if d = domain then line else m.lines d }

/-- Lets a thread that waits for a lock go on. -/
def wake (m : Machine σ κ ρ α) (i : Nat) : Machine σ κ ρ α :=
  match m.threads[i]? with
  | some (.waiting program) => m.setThread i (.running program)
  | _ => m

/-- One step of a thread; `none` if it cannot take one. -/
def advance? (backend : Backend σ) (m : Machine σ κ ρ α) (i : Nat) :
    Option (Machine σ κ ρ α) :=
  match m.threads[i]? with
  | some (.running (.storage step next)) =>
    let (answer, tiers) := step.perform backend m.now m.tiers
    some ({ m with tiers }.setThread i (.running (next m.now answer)))
  | some (.running (.acquire domain next)) =>
    let line := m.lines domain
    let thread := if line.isEmpty then .running next else .waiting next
    some ((m.setLine domain (line ++ [i])).setThread i thread)
  | some (.running (.release domain next)) =>
    let rest := (m.lines domain).drop 1
    let released := (m.setLine domain rest).setThread i (.running next)
    some (match rest with
      | [] => released
      | j :: _ => released.wake j)
  | some (.running (.produce request next)) =>
    some ({ m with asked := m.asked ++ [(i, request)] }.setThread i (.producing request next))
  | _ => none

/-- The producer of a thread replies. -/
def reply? (m : Machine σ κ ρ α) (i : Nat) (answer : ρ) : Option (Machine σ κ ρ α) :=
  match m.threads[i]? with
  | some (.producing _ next) => some (m.setThread i (.running (next answer)))
  | _ => none

/-- Time passes. -/
def pass (m : Machine σ κ ρ α) (duration : Nat) : Machine σ κ ρ α :=
  { m with now := m.now + duration }

/-- What can happen next. -/
inductive Event (ρ : Type) where
  /-- A thread takes a step. -/
  | advance (thread : Nat)
  /-- The producer of a thread replies. -/
  | reply (thread : Nat) (answer : ρ)
  /-- Nanoseconds pass. -/
  | pass (duration : Nat)
  deriving Repr

/-- What an event leads to; `none` if it cannot happen. -/
def step? (backend : Backend σ) (m : Machine σ κ ρ α) : Event ρ → Option (Machine σ κ ρ α)
  | .advance i => m.advance? backend i
  | .reply i answer => m.reply? i answer
  | .pass duration => some (m.pass duration)

/-- What events lead to, one after the other. -/
def runEvents? (backend : Backend σ) (m : Machine σ κ ρ α) (events : List (Event ρ)) :
    Option (Machine σ κ ρ α) :=
  events.foldlM (step? backend) m

end Machine

end ChainActivity
