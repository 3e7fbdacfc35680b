import ChainActivity.Batch.Chunks

/-!
# Ordered gathering

Requests are sent in order, at most so many at a time, and their answers are delivered
in the order of the requests, whatever the order in which they arrive.

## Main definitions

* `Gather` — requests by what has become of them, and `Gather.step?`.
* `Gather.Event` — a request is sent, an answer arrives, an answer is delivered.
* `Gather.rounds` — the events of a run in which every answer takes the same time.
* `Gather.peak` — the largest number of requests that are unanswered at a time.

## Design notes

An answer that has arrived but waits for earlier ones still counts against the limit:
the window holds everything between the first request that is not delivered and the
last one that was sent.
-/

namespace ChainActivity

/-- Requests of type `κ` with answers of type `ρ`, by what has become of them. -/
structure Gather (κ ρ : Type) where
  /-- Not sent yet. -/
  pending : List κ
  /-- All that were sent, in order. -/
  sent : List κ
  /-- Sent and not delivered, with the answers that have arrived. -/
  window : List (κ × Option ρ)
  /-- The answers that are delivered. -/
  delivered : List ρ
  deriving Repr

namespace Gather

variable {κ ρ : Type}

/-- Nothing is sent yet. -/
def start (requests : List κ) : Gather κ ρ := ⟨requests, [], [], []⟩

/-- The number of requests that are sent and not answered. -/
def outstanding (g : Gather κ ρ) : Nat :=
  g.window.countP fun w => w.2.isNone

/-- Whether everything is delivered. -/
def isComplete (g : Gather κ ρ) : Bool :=
  g.pending.isEmpty && g.window.isEmpty

/-- What can happen next. -/
inductive Event (ρ : Type) where
  /-- The next request is sent. -/
  | send
  /-- The answer to the request at a place of the window arrives. -/
  | arrive (place : Nat) (answer : ρ)
  /-- The answer to the first request of the window is delivered. -/
  | deliver
  deriving Repr

/-- What an event leads to, with a window of at most `limit` requests; `none` if it
cannot happen. -/
def step? (limit : Nat) (g : Gather κ ρ) : Event ρ → Option (Gather κ ρ)
  | .send =>
    match g.pending with
    | request :: rest =>
      if g.window.length < limit then
        some
          { g with
            pending := rest
            sent := g.sent ++ [request]
            window := g.window ++ [(request, none)] }
      else none
    | [] => none
  | .arrive place answer =>
    match g.window[place]? with
    | some (request, none) => some { g with window := g.window.set place (request, some answer) }
    | _ => none
  | .deliver =>
    match g.window with
    | (_, some answer) :: rest =>
      some { g with window := rest, delivered := g.delivered ++ [answer] }
    | _ => none

/-- What events lead to, one after the other; events that cannot happen are passed
over. -/
def run (limit : Nat) (g : Gather κ ρ) (events : List (Event ρ)) : Gather κ ρ :=
  events.foldl (fun g event => (step? limit g event).getD g) g

/-- The largest number of requests that are unanswered at a time. -/
def peak (limit : Nat) : Gather κ ρ → List (Event ρ) → Nat
  | g, [] => g.outstanding
  | g, event :: rest => max g.outstanding (peak limit ((step? limit g event).getD g) rest)

/-! ### Equal durations -/

/-- Some requests are sent, all of them are answered, and all answers are delivered. -/
def round (answer : κ → ρ) (requests : List κ) : List (Event ρ) :=
  requests.map (fun _ => .send) ++
    (requests.zipIdx.map (fun (request, place) => .arrive place (answer request)) ++
      requests.map fun _ => .deliver)

/-- The rounds of a run in which every answer takes the same time and the window is
always full. -/
def rounds (limit : Nat) (answer : κ → ρ) (requests : List κ) : List (List (Event ρ)) :=
  (chunks limit requests).map (round answer)

end Gather

end ChainActivity
