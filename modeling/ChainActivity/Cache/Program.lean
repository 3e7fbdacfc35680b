import ChainActivity.Cache.Backend
import ChainActivity.Cache.Policy

/-!
# Cache programs

A call of a cache is a sequence of steps.  Each step happens at one moment; between
two steps other calls may take place.  A program says what the steps are and how each
depends on the answers to those before it, and leaves open when they happen.

## Main definitions

* `StorageStep` — one access to a tier, and `StorageStep.perform`.
* `Program` — a call, step by step.
* `Program.run` — carries out a call without any other call in between.

## Design notes

Programs form a monad, so that calls are written with `do`.  A program takes locks and
asks producers through constructors of its own: what these mean depends on the other
calls, and a run without other calls passes over the locks.
-/

namespace ChainActivity

/-- A text in the tier of the process and the moment since which it counts as
stored. -/
structure LocalEntry where
  text : String
  storedAt : Instant
  deriving DecidableEq, Repr

/-- The two tiers of a cache. -/
structure Tiers (σ : Type) where
  near : Keyed LocalEntry
  durable : σ

/-- One access to a tier. -/
inductive StorageStep where
  | readNear (key : String)
  /-- Stores a text; it counts as stored since some moment, or since now. -/
  | writeNear (key text : String) (since : Option Instant)
  | durableGet (key : String)
  | durableSet (key text : String) (lifetime : Nat)
  | durableTtl (key : String)
  | durableFlush
  deriving DecidableEq, Repr

/-- What an access answers. -/
@[reducible] def StorageStep.Answer : StorageStep → Type
  | readNear _ => Option LocalEntry
  | writeNear .. => Unit
  | durableGet _ => Except CacheError (Option String)
  | durableSet .. => Ending (Except CacheError Unit)
  | durableTtl _ => Except CacheError (Option Nat)
  | durableFlush => Except CacheError Unit

/-- Carries out one access. -/
def StorageStep.perform {σ : Type} (backend : Backend σ) (now : Instant) (tiers : Tiers σ) :
    (step : StorageStep) → step.Answer × Tiers σ
  | readNear key => (tiers.near.get? key, tiers)
  | writeNear key text since =>
    ((), { tiers with near := tiers.near.insert key ⟨text, since.getD now⟩ })
  | durableGet key =>
    let (answer, durable) := backend.get key now tiers.durable
    (answer, { tiers with durable })
  | durableSet key text lifetime =>
    let (answer, durable) := backend.set key text lifetime now tiers.durable
    (answer, { tiers with durable })
  | durableTtl key =>
    let (answer, durable) := backend.ttl key now tiers.durable
    (answer, { tiers with durable })
  | durableFlush =>
    let (answer, durable) := backend.flush now tiers.durable
    (answer, { tiers with durable })

/-- A call, step by step.  It may send requests of type `κ` to a producer, which replies
with `ρ`, and ends with a value of type `α`. -/
inductive Program (κ ρ α : Type) where
  | done (value : α)
  /-- Accesses a tier and goes on with the moment and the answer. -/
  | storage (step : StorageStep) (next : Instant → step.Answer → Program κ ρ α)
  /-- Waits for the lock of a domain. -/
  | acquire (domain : Domain) (next : Program κ ρ α)
  /-- Gives the lock of a domain back. -/
  | release (domain : Domain) (next : Program κ ρ α)
  /-- Asks the producer. -/
  | produce (request : κ) (next : ρ → Program κ ρ α)

namespace Program

variable {κ ρ α β σ : Type}

/-- Goes on with another program where one ends. -/
def bind : Program κ ρ α → (α → Program κ ρ β) → Program κ ρ β
  | .done a, f => f a
  | .storage step next, f => .storage step fun now answer => (next now answer).bind f
  | .acquire domain next, f => .acquire domain (next.bind f)
  | .release domain next, f => .release domain (next.bind f)
  | .produce request next, f => .produce request fun reply => (next reply).bind f

instance : Monad (Program κ ρ) where
  pure := .done
  bind := .bind

/-- One access to a tier, with the moment at which it takes place. -/
def access (step : StorageStep) : Program κ ρ (Instant × step.Answer) :=
  .storage step fun now answer => .done (now, answer)

/-- Waits for the lock of a domain. -/
def lock (domain : Domain) : Program κ ρ Unit :=
  .acquire domain (.done ())

/-- Gives the lock of a domain back. -/
def unlock (domain : Domain) : Program κ ρ Unit :=
  .release domain (.done ())

/-- Asks the producer. -/
def ask (request : κ) : Program κ ρ ρ :=
  .produce request .done

end Program

/-- A producer: its reply to a request and the time that it takes. -/
structure Producer (κ ρ : Type) where
  reply : κ → ρ
  duration : κ → Nat

/-- What calls that are carried out one after the other leave behind. -/
structure Session (κ σ : Type) where
  now : Instant
  tiers : Tiers σ
  /-- The requests to the producer, in order. -/
  asked : List κ

namespace Program

variable {κ ρ α β σ : Type}

/-- Carries out a call without any other call in between.  Time passes only while the
producer works. -/
def run (backend : Backend σ) (producer : Producer κ ρ) :
    Program κ ρ α → Session κ σ → α × Session κ σ
  | .done a, s => (a, s)
  | .storage step next, s =>
    let (answer, tiers) := step.perform backend s.now s.tiers
    (next s.now answer).run backend producer { s with tiers }
  | .acquire _ next, s => next.run backend producer s
  | .release _ next, s => next.run backend producer s
  | .produce request next, s =>
    (next (producer.reply request)).run backend producer
      { s with now := s.now + producer.duration request, asked := s.asked ++ [request] }

@[simp] theorem run_pure (backend : Backend σ) (producer : Producer κ ρ) (a : α)
    (s : Session κ σ) : (pure a : Program κ ρ α).run backend producer s = (a, s) := rfl

/-- Running two programs one after the other is running the second where the first
ended. -/
theorem run_bind (backend : Backend σ) (producer : Producer κ ρ) (p : Program κ ρ α)
    (f : α → Program κ ρ β) (s : Session κ σ) :
    (p.bind f).run backend producer s =
      (f (p.run backend producer s).1).run backend producer (p.run backend producer s).2 := by
  induction p generalizing s with
  | done a => rfl
  | storage step next ih => exact ih _ _ _
  | acquire domain next ih => exact ih _
  | release domain next ih => exact ih _
  | produce request next ih => exact ih _ _

end Program

end ChainActivity
