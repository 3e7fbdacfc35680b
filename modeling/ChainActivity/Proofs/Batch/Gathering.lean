import ChainActivity.Batch.Gather

/-!
# Runs of ordered gathering

Requests are sent, answered and delivered in any order that the window allows.  Every
run comes to an end, and at its end the answers stand in the order of the requests.

## Main definitions

* `Gather.Next` — the three kinds of steps, with all that they need and change.
* `Gather.Run` — a run in which every request gets an answer of its own.
* `Gather.work` — how many steps are still to come.
* `Gather.Ordered` — what is kept by every step.

## Main statements

* `Gather.next_of_step?` — an event that can happen is one of the three.
* `Gather.Run.length_add_work` — every step leaves one less to come.
* `Gather.Run.exists_next` — a run goes on until it is complete.
* `Gather.Run.ordered` — what was sent and delivered, at every moment of a run.

## Design notes

A run says nothing about which of the requests under way is answered next, so that a
statement about all runs is one about all orders of completion.  What a request is
answered with depends on the request alone; where two equal requests get different
answers, they are to be told apart by a number.
-/

namespace ChainActivity.Gather

variable {κ ρ : Type} {limit : Nat} {answer : κ → ρ} {requests : List κ}

/-! ### Steps -/

/-- What an event needs and what it changes. -/
inductive Next (limit : Nat) (g : Gather κ ρ) : Event ρ → Gather κ ρ → Prop
  | send {request : κ} {rest : List κ} (first : g.pending = request :: rest)
    (room : g.window.length < limit) :
    Next limit g .send
      { g with
        pending := rest
        sent := g.sent ++ [request]
        window := g.window ++ [(request, none)] }
  | arrive {place : Nat} {request : κ} (waits : g.window[place]? = some (request, none)) (a : ρ) :
    Next limit g (.arrive place a) { g with window := g.window.set place (request, some a) }
  | deliver {request : κ} {a : ρ} {rest : List (κ × Option ρ)}
    (first : g.window = (request, some a) :: rest) :
    Next limit g .deliver { g with window := rest, delivered := g.delivered ++ [a] }

/-- An event that can happen is of one of three kinds. -/
theorem next_of_step? {g h : Gather κ ρ} {event : Event ρ} (happens : step? limit g event = some h) :
    Next limit g event h := by
  cases event with
  | send =>
    simp only [step?] at happens
    split at happens
    · next request rest first =>
      split at happens
      · next room =>
        obtain rfl := Option.some.inj happens
        exact .send first room
      · exact nomatch happens
    · exact nomatch happens
  | arrive place a =>
    simp only [step?] at happens
    split at happens
    · next request waits =>
      obtain rfl := Option.some.inj happens
      exact .arrive waits a
    · exact nomatch happens
  | deliver =>
    simp only [step?] at happens
    split at happens
    · next request a rest first =>
      obtain rfl := Option.some.inj happens
      exact .deliver first
    · exact nomatch happens

/-- Whether an event brings no answer, or the one that its request gets. -/
def Event.IsAnsweredBy (answer : κ → ρ) (g : Gather κ ρ) : Event ρ → Prop
  | .arrive place a => ∀ request, g.window[place]? = some (request, none) → a = answer request
  | _ => True

/-- A run from nothing sent: events that can happen, one after the other, where every
request gets its own answer. -/
inductive Run (limit : Nat) (answer : κ → ρ) (requests : List κ) :
    List (Event ρ) → Gather κ ρ → Prop
  | start : Run limit answer requests [] (.start requests)
  | step {events : List (Event ρ)} {g h : Gather κ ρ} {event : Event ρ}
    (before : Run limit answer requests events g) (own : event.IsAnsweredBy answer g)
    (happens : step? limit g event = some h) : Run limit answer requests (events ++ [event]) h

/-! ### The end of a run -/

/-- How many steps are still to come: three for a request that is not sent, two for one
that is not answered, and one for one that is not delivered. -/
def work (g : Gather κ ρ) : Nat :=
  3 * g.pending.length + g.window.length + g.outstanding

/-- Every step leaves one less to come. -/
theorem Next.work_eq {g h : Gather κ ρ} {event : Event ρ} (next : Next limit g event h) :
    g.work = h.work + 1 := by
  cases next with
  | send first room =>
    simp only [work, outstanding, first, List.length_cons, List.length_append, List.length_nil,
      List.countP_append, List.countP_cons, List.countP_nil, Option.isNone_none, if_true]
    omega
  | @arrive place request waits a =>
    obtain ⟨inside, waits⟩ := List.getElem?_eq_some_iff.mp waits
    have unanswered := List.countP_set (p := fun w : κ × Option ρ => w.2.isNone)
      (a := (request, some a)) inside
    have present : 0 < g.outstanding :=
      List.countP_pos_iff.mpr ⟨(request, none), waits ▸ List.getElem_mem inside, rfl⟩
    simp only [waits, Option.isNone_none, Option.isNone_some, if_true, Bool.false_eq_true, if_false]
      at unanswered
    simp only [work, outstanding, unanswered, List.length_set] at present ⊢
    omega
  | deliver first =>
    simp only [work, outstanding, first, List.length_cons, List.countP_cons, Option.isNone_some,
      Bool.false_eq_true, if_false]
    omega

/-- A run is complete if no work is left. -/
theorem isComplete_iff (g : Gather κ ρ) : g.isComplete = true ↔ g.work = 0 := by
  have fewer : g.outstanding ≤ g.window.length := List.countP_le_length
  simp only [isComplete, work, Bool.and_eq_true, List.isEmpty_iff, ← List.length_eq_zero_iff]
  omega

/-- The steps that are done and those that are still to come are three for each
request. -/
theorem Run.length_add_work {events : List (Event ρ)} {g : Gather κ ρ}
    (run : Run limit answer requests events g) : events.length + g.work = 3 * requests.length := by
  induction run with
  | start => simp [work, Gather.start, outstanding]
  | step before own happens ih =>
    have less := (next_of_step? happens).work_eq
    rw [List.length_append, List.length_singleton]
    omega

/-- A run goes on until it is complete. -/
theorem Run.exists_next {events : List (Event ρ)} {g : Gather κ ρ} (positive : 0 < limit)
    (run : Run limit answer requests events g) (unfinished : g.isComplete = false) :
    ∃ event h, Run limit answer requests (events ++ [event]) h := by
  rcases window : g.window with _ | ⟨⟨request, _ | a⟩, rest⟩
  · -- nothing is under way, so something is left to be sent
    rcases pending : g.pending with _ | ⟨request, rest⟩
    · simp [isComplete, window, pending] at unfinished
    · have sends : ∃ h, step? limit g .send = some h := by simp [step?, pending, window, positive]
      obtain ⟨h, happens⟩ := sends
      exact ⟨.send, h, run.step trivial happens⟩
  · have arrives : ∃ h, step? limit g (.arrive 0 (answer request)) = some h := by
      simp [step?, window]
    obtain ⟨h, happens⟩ := arrives
    refine ⟨.arrive 0 (answer request), h, run.step (fun other waits => ?_) happens⟩
    rw [window] at waits
    obtain rfl := (Prod.mk.inj (Option.some.inj waits)).1
    rfl
  · have delivers : ∃ h, step? limit g .deliver = some h := by simp [step?, window]
    obtain ⟨h, happens⟩ := delivers
    exact ⟨.deliver, h, run.step trivial happens⟩

/-- Every run can be brought to its end. -/
theorem Run.exists_complete {events : List (Event ρ)} {g : Gather κ ρ} (positive : 0 < limit)
    (run : Run limit answer requests events g) :
    ∃ events h, Run limit answer requests events h ∧ h.isComplete = true := by
  generalize left : g.work = work
  induction work generalizing events g with
  | zero => exact ⟨events, g, run, (isComplete_iff g).mpr left⟩
  | succ work ih =>
    have unfinished : g.isComplete = false :=
      Bool.eq_false_iff.mpr fun complete => by
        have none_left := (isComplete_iff g).mp complete
        omega
    obtain ⟨event, h, further⟩ := run.exists_next positive unfinished
    have one := run.length_add_work
    have two := further.length_add_work
    rw [List.length_append, List.length_singleton] at two
    exact ih further (by omega)

/-! ### What was sent and delivered -/

/-- What holds at every moment of a run: the requests that were sent are the first ones,
and of them the first have been delivered and the others stand in the window. -/
structure Ordered (answer : κ → ρ) (requests : List κ) (g : Gather κ ρ) : Prop where
  sent_pending : g.sent ++ g.pending = requests
  served : ∃ first, g.sent = first ++ g.window.map Prod.fst ∧ g.delivered = first.map answer
  arrived : ∀ request a, (request, some a) ∈ g.window → a = answer request

/-- A step keeps the order. -/
theorem Ordered.next {g h : Gather κ ρ} {event : Event ρ} (ordered : Ordered answer requests g)
    (own : event.IsAnsweredBy answer g) (next : Next limit g event h) :
    Ordered answer requests h := by
  obtain ⟨first, sent, delivered⟩ := ordered.served
  cases next with
  | @send request rest pending room =>
    refine ⟨?_, ⟨first, ?_, delivered⟩, fun other a member => ?_⟩
    · rw [← ordered.sent_pending, pending, List.append_assoc, List.singleton_append]
    · simp only [sent, List.map_append, List.map_cons, List.map_nil, List.append_assoc]
    · rcases List.mem_append.mp member with there | new
      · exact ordered.arrived other a there
      · simp at new
  | @arrive place request waits a =>
    have same : (g.window.set place (request, some a)).map Prod.fst = g.window.map Prod.fst := by
      obtain ⟨inside, found⟩ := List.getElem?_eq_some_iff.mp waits
      have inside' : place < (g.window.map Prod.fst).length := by simpa using inside
      have named : (g.window.map Prod.fst)[place] = request := by rw [List.getElem_map, found]
      simp only [List.map_set, ← named, List.set_getElem_self]
    refine ⟨ordered.sent_pending, ⟨first, ?_, delivered⟩, fun other b member => ?_⟩
    · rw [same]
      exact sent
    · rcases List.mem_or_eq_of_mem_set member with there | new
      · exact ordered.arrived other b there
      · obtain ⟨rfl, answered⟩ := Prod.mk.inj new
        obtain rfl := Option.some.inj answered
        exact own other waits
  | @deliver request a rest window =>
    refine ⟨ordered.sent_pending, ⟨first ++ [request], ?_, ?_⟩, fun other b member => ?_⟩
    · rw [sent, window]
      simp
    · have own : a = answer request := ordered.arrived request a (by rw [window]; simp)
      rw [delivered, own, List.map_append]
      rfl
    · exact ordered.arrived other b (by rw [window]; exact List.mem_cons_of_mem _ member)

/-- Every moment of a run is in order. -/
theorem Run.ordered {events : List (Event ρ)} {g : Gather κ ρ}
    (run : Run limit answer requests events g) : Ordered answer requests g := by
  induction run with
  | start => exact ⟨rfl, ⟨[], rfl, rfl⟩, fun _ _ member => nomatch member⟩
  | step before own happens ih => exact ih.next own (next_of_step? happens)

/-- At the end of a run every request was sent, once and in order, and the answers are
delivered in the order of the requests. -/
theorem Run.of_isComplete {events : List (Event ρ)} {g : Gather κ ρ}
    (run : Run limit answer requests events g) (complete : g.isComplete = true) :
    g.sent = requests ∧ g.delivered = requests.map answer := by
  obtain ⟨pending, window⟩ : g.pending = [] ∧ g.window = [] := by
    simpa [isComplete] using complete
  obtain ⟨first, sent, delivered⟩ := run.ordered.served
  have all : g.sent = requests := by
    rw [← run.ordered.sent_pending, pending, List.append_nil]
  rw [window, List.map_nil, List.append_nil] at sent
  exact ⟨all, by rw [delivered, ← sent, all]⟩

end ChainActivity.Gather
