import ChainActivity.Proofs.Batch.Fetching
import Mathlib.Data.List.Sigma

/-!
# How many requests are under way

The requests of a batch are sent in order, and no more of them are unanswered at a time than the
limit allows, however long each of them takes.  The window is the reason: it holds every request
from the first that is not delivered to the last that was sent, unanswered ones among them, and
nothing is sent into a full window.

## Main definitions

* `Gather.answered` — the requests that a run has answered, in the order of the answers.
* `Gather.unanswered` — the requests that are under way.

## Main statements

* `Gather.peak_le` — the limit holds at every moment.
* `Gather.Run.perm_sent` — what was sent has been answered, once, or is under way.
* `Gather.run_rounds` — what rounds of equal duration lead to.
* `fetches_bounded` — the requests of a batch at every moment, and at the end.

## Design notes

A run does not say how long anything takes.  Durations decide which answer arrives next, and a run
admits them in every order; so a bound for all runs is one for all durations.
-/

namespace ChainActivity

/-- A chunk has no more members than its size. -/
theorem length_le_of_mem_chunks {α : Type} {size : Nat} {xs chunk : List α}
    (member : chunk ∈ chunks size xs) : chunk.length ≤ max size 1 := by
  obtain ⟨k, found⟩ := List.mem_iff_getElem?.mp member
  rw [getElem?_chunks] at found
  split at found
  · obtain rfl := Option.some.inj found
    exact List.length_take_le ..
  · cases found

namespace Gather

variable {κ ρ : Type} {limit : Nat} {answer : κ → ρ} {requests : List κ}

/-! ### The limit -/

theorem outstanding_le_length (g : Gather κ ρ) : g.outstanding ≤ g.window.length :=
  List.countP_le_length

/-- A step keeps the window within the limit. -/
theorem Next.length_window_le {g h : Gather κ ρ} {event : Event ρ} (next : Next limit g event h)
    (fits : g.window.length ≤ limit) : h.window.length ≤ limit := by
  cases next with
  | send first room => simpa using Nat.succ_le_of_lt room
  | arrive waits a => simpa using fits
  | deliver first =>
    rw [first, List.length_cons] at fits
    exact Nat.le_of_succ_le fits

/-- At no moment are more requests unanswered than the limit, whatever happens. -/
theorem peak_le {g : Gather κ ρ} (fits : g.window.length ≤ limit) (events : List (Event ρ)) :
    peak limit g events ≤ limit := by
  induction events generalizing g with
  | nil => exact Nat.le_trans g.outstanding_le_length fits
  | cons event rest ih =>
    unfold peak
    apply Nat.max_le.mpr
    refine ⟨Nat.le_trans g.outstanding_le_length fits, ih ?_⟩
    cases happens : step? limit g event with
    | none => exact fits
    | some h => exact (next_of_step? happens).length_window_le fits

/-- At every moment of a run the window is within the limit. -/
theorem Run.length_window_le {events : List (Event ρ)} {g : Gather κ ρ}
    (run : Run limit answer requests events g) : g.window.length ≤ limit := by
  induction run with
  | start => exact Nat.zero_le limit
  | step before own happens ih => exact (next_of_step? happens).length_window_le ih

/-- Nothing follows a complete run: no work is left for a further step. -/
theorem Run.not_next {events : List (Event ρ)} {g : Gather κ ρ}
    (run : Run limit answer requests events g) (complete : g.isComplete = true)
    (event : Event ρ) (h : Gather κ ρ) : ¬ Run limit answer requests (events ++ [event]) h := by
  intro further
  have none_left : g.work = 0 := (isComplete_iff g).mp complete
  have one := run.length_add_work
  have two := further.length_add_work
  rw [List.length_append, List.length_singleton] at two
  omega

/-! ### What was answered -/

/-- The request whose answer an event brings. -/
def answeredBy (g : Gather κ ρ) : Event ρ → Option κ
  | .arrive place _ =>
    match g.window[place]? with
    | some (request, none) => some request
    | _ => none
  | _ => none

/-- The requests whose answers events bring, one after the other. -/
def answered (limit : Nat) : Gather κ ρ → List (Event ρ) → List κ
  | _, [] => []
  | g, event :: rest =>
    (g.answeredBy event).toList ++ answered limit ((step? limit g event).getD g) rest

/-- The requests that are sent and not answered. -/
def unanswered (g : Gather κ ρ) : List κ :=
  (g.window.filter fun w => w.2.isNone).map Prod.fst

theorem length_unanswered (g : Gather κ ρ) : g.unanswered.length = g.outstanding := by
  rw [unanswered, List.length_map, outstanding, List.countP_eq_length_filter]

theorem run_append (g : Gather κ ρ) (first rest : List (Event ρ)) :
    run limit g (first ++ rest) = run limit (run limit g first) rest :=
  List.foldl_append

theorem answered_concat (g : Gather κ ρ) (events : List (Event ρ)) (event : Event ρ) :
    answered limit g (events ++ [event]) =
      answered limit g events ++ ((run limit g events).answeredBy event).toList := by
  induction events generalizing g with
  | nil => simp [answered, run]
  | cons first rest ih =>
    rw [List.cons_append, answered, ih, answered, List.append_assoc]
    rfl

/-- The events of a run lead to where it stands. -/
theorem Run.run_eq {events : List (Event ρ)} {g : Gather κ ρ}
    (run : Run limit answer requests events g) : Gather.run limit (.start requests) events = g := by
  induction run with
  | start => rfl
  | step before own happens ih =>
    rw [run_append, ih]
    simp [Gather.run, happens]

/-- A step answers a request that is under way, or sends one, or does neither. -/
theorem Next.perm_sent {g h : Gather κ ρ} {event : Event ρ} {past : List κ}
    (next : Next limit g event h) (all : (past ++ g.unanswered).Perm g.sent) :
    (past ++ (g.answeredBy event).toList ++ h.unanswered).Perm h.sent := by
  cases next with
  | @send request rest first room =>
    have more := all.append_right [request]
    simpa [answeredBy, unanswered] using more
  | @arrive place request waits a =>
    have answers : g.answeredBy (.arrive place a) = some request := by
      simp only [answeredBy, waits]
    obtain ⟨inside, found⟩ := List.getElem?_eq_some_iff.mp waits
    obtain ⟨front, back, cut, -, placed⟩ := @List.exists_of_set _ _ (request, some a) _ inside
    rw [found] at cut
    let waiting (ws : List (κ × Option ρ)) := (ws.filter fun w => w.2.isNone).map Prod.fst
    have before : g.unanswered = waiting front ++ request :: waiting back := by
      simp [unanswered, cut, waiting]
    have after : unanswered { g with window := g.window.set place (request, some a) } =
        waiting front ++ waiting back := by
      simp [unanswered, placed, waiting]
    rw [answers, after, List.append_assoc]
    rw [before] at all
    have moved : (request :: (waiting front ++ waiting back)).Perm
        (waiting front ++ request :: waiting back) := List.perm_middle.symm
    exact (moved.append_left past).trans all
  | @deliver request a rest first =>
    simpa [answeredBy, unanswered, first] using all

/-- What a run has sent has been answered or is under way. -/
theorem Run.perm_sent {events : List (Event ρ)} {g : Gather κ ρ}
    (run : Run limit answer requests events g) :
    (answered limit (.start requests) events ++ g.unanswered).Perm g.sent := by
  induction run with
  | start => exact .refl _
  | step before own happens ih =>
    rw [answered_concat, before.run_eq]
    exact (next_of_step? happens).perm_sent ih

/-! ### Rounds of equal duration -/

theorem run_cons {g h : Gather κ ρ} {event : Event ρ} (happens : step? limit g event = some h)
    (rest : List (Event ρ)) : run limit g (event :: rest) = run limit h rest := by
  rw [run, List.foldl_cons, happens]
  rfl

/-- Requests are sent one after the other as long as there is room for them. -/
theorem run_sends {chunk rest sent : List κ} {window : List (κ × Option ρ)} {delivered : List ρ}
    (room : window.length + chunk.length ≤ limit) :
    run limit ⟨chunk ++ rest, sent, window, delivered⟩ (chunk.map fun _ => .send) =
      ⟨rest, sent ++ chunk, window ++ chunk.map fun request => (request, none), delivered⟩ := by
  induction chunk generalizing sent window with
  | nil => simp [run]
  | cons request chunk ih =>
    rw [List.length_cons] at room
    have space : window.length < limit := by omega
    have happens : step? limit ⟨request :: (chunk ++ rest), sent, window, delivered⟩ .send =
        some ⟨chunk ++ rest, sent ++ [request], window ++ [(request, none)], delivered⟩ :=
      if_pos space
    have smaller : (window ++ [((request, none) : κ × Option ρ)]).length + chunk.length ≤ limit := by
      rw [List.length_append, List.length_singleton]
      omega
    rw [List.map_cons, List.cons_append, run_cons happens, ih smaller]
    simp

/-- Requests in the window are answered one after the other. -/
theorem run_arrivals {chunk pending sent : List κ} {front : List (κ × Option ρ)}
    {delivered : List ρ} :
    run limit ⟨pending, sent, front ++ chunk.map fun request => (request, none), delivered⟩
        ((chunk.zipIdx front.length).map fun (request, place) => .arrive place (answer request)) =
      ⟨pending, sent, front ++ chunk.map fun request => (request, some (answer request)),
        delivered⟩ := by
  induction chunk generalizing front with
  | nil => rfl
  | cons request chunk ih =>
    have happens : step? limit
          ⟨pending, sent, front ++ (request, none) :: chunk.map fun request => (request, none),
            delivered⟩ (.arrive front.length (answer request)) =
        some ⟨pending, sent, (front ++ [(request, some (answer request))]) ++
          chunk.map fun request => (request, none), delivered⟩ := by
      simp [step?]
    have next := @ih (front ++ [(request, some (answer request))])
    rw [List.length_append, List.length_singleton] at next
    rw [List.zipIdx_cons, List.map_cons, List.map_cons, run_cons happens, next]
    simp

/-- Answers at the front of the window are delivered one after the other. -/
theorem run_deliveries {chunk pending sent : List κ} {delivered : List ρ} :
    run limit ⟨pending, sent, chunk.map fun request => (request, some (answer request)), delivered⟩
        (chunk.map fun _ => .deliver) =
      ⟨pending, sent, [], delivered ++ chunk.map answer⟩ := by
  induction chunk generalizing delivered with
  | nil => simp [run]
  | cons request chunk ih =>
    have happens : step? limit
          ⟨pending, sent, (request, some (answer request)) ::
            chunk.map fun request => (request, some (answer request)), delivered⟩ .deliver =
        some ⟨pending, sent, chunk.map fun request => (request, some (answer request)),
          delivered ++ [answer request]⟩ := rfl
    rw [List.map_cons, List.map_cons, run_cons happens, ih]
    simp

/-- After a round its requests are delivered and the window is empty again. -/
theorem run_round {chunk rest sent : List κ} {delivered : List ρ} (room : chunk.length ≤ limit) :
    run limit ⟨chunk ++ rest, sent, [], delivered⟩ (round answer chunk) =
      ⟨rest, sent ++ chunk, [], delivered ++ chunk.map answer⟩ := by
  have arrivals := @run_arrivals _ _ limit answer chunk rest (sent ++ chunk) [] delivered
  rw [List.nil_append, List.nil_append] at arrivals
  rw [round, run_append, run_append, run_sends (by simpa using room), List.nil_append]
  exact (congrArg (run limit · _) arrivals).trans run_deliveries

/-- Rounds of requests, each no more than the limit, send and deliver all of them in order. -/
theorem run_rounds {chunks : List (List κ)} {sent : List κ} {delivered : List ρ}
    (room : ∀ chunk ∈ chunks, chunk.length ≤ limit) :
    run limit ⟨chunks.flatten, sent, [], delivered⟩ (chunks.map (round answer)).flatten =
      ⟨[], sent ++ chunks.flatten, [], delivered ++ chunks.flatten.map answer⟩ := by
  induction chunks generalizing sent delivered with
  | nil => simp [run]
  | cons chunk chunks ih =>
    obtain ⟨here, later⟩ := List.forall_mem_cons.mp room
    rw [List.map_cons, List.flatten_cons, List.flatten_cons, run_append, run_round here, ih later]
    simp

/-- The rounds of a list of requests send and deliver all of them in order. -/
theorem run_start_rounds {width : Nat} (room : max width 1 ≤ limit) :
    run limit (.start requests) (rounds width answer requests).flatten =
      ⟨[], requests, [], requests.map answer⟩ := by
  have final := @run_rounds _ _ limit answer (chunks width requests) [] [] fun chunk member =>
    Nat.le_trans (length_le_of_mem_chunks member) room
  rw [flatten_chunks, List.nil_append, List.nil_append] at final
  exact final

end Gather

/-! ### The requests of a batch -/

section Trace

variable (config : BatchConfig) (provider : ResultProvider) (duration : Nat) (txs : List Transaction)

/-- What is recorded of requests of equal duration: all of them in order, and all their
results. -/
theorem fetchTrace_eq :
    (fetchTrace config provider duration txs).requests = hashChunks config txs ∧
      (fetchTrace config provider duration txs).results = fetchResults config provider txs := by
  have room : max (if duration = 0 then 1 else config.limit) 1 ≤ config.limit := by
    have positive := config.limit_pos
    split <;> omega
  have final := @Gather.run_start_rounds _ _ _ (chunkResults provider) (hashChunks config txs) _ room
  exact ⟨congrArg Gather.sent final, congrArg (fun g => g.delivered.flatten) final⟩

theorem peak_fetchTrace_le : (fetchTrace config provider duration txs).peak ≤ config.limit :=
  Gather.peak_le (Nat.zero_le _) _

end Trace

/-- **At no moment are more requests of a batch unanswered than the limit**, and at least one may
be.  They are sent in the order of the chunks; what has been sent has been answered once or is
under way; and when nothing more can happen, every chunk has been requested once and answered.
That holds for all orders in which the answers can arrive, and so for all durations; what is
recorded of a run with one duration is a case of it. -/
theorem fetches_bounded (config : BatchConfig) (txs : List Transaction) :
    let requests := (hashChunks config txs).zipIdx
    requests.Nodup ∧
    (∀ outcomes events g, FetchRun config txs outcomes events g →
      let answered := Gather.answered config.limit (.start requests) events
      g.sent <+: requests ∧
      (answered ++ g.unanswered).Perm g.sent ∧
      g.unanswered.length ≤ max config.concurrency 1 ∧
      Gather.peak config.limit (.start requests) events ≤ max config.concurrency 1 ∧
      ((∀ event h, ¬ FetchRun config txs outcomes (events ++ [event]) h) →
        g.sent = requests ∧ answered.Perm requests)) ∧
    ∀ provider duration,
      let trace := fetchTrace config provider duration txs
      trace.requests = hashChunks config txs ∧ trace.peak ≤ max config.concurrency 1 ∧
        trace.results = fetchResults config provider txs := by
  intro requests
  -- equal chunks are told apart by their numbers
  have apart : requests.Nodup := .of_map Prod.snd (List.nodup_zipIdx_map_snd _)
  refine ⟨apart, ?_, ?_⟩
  · intro outcomes events g run answered
    have order := (Gather.Run.ordered run).sent_pending
    have served : (answered ++ g.unanswered).Perm g.sent := Gather.Run.perm_sent run
    refine ⟨⟨g.pending, order⟩, served, ?_, Gather.peak_le (Nat.zero_le _) events, ?_⟩
    · rw [Gather.length_unanswered]
      exact Nat.le_trans g.outstanding_le_length (Gather.Run.length_window_le run)
    · intro ended
      -- a run that is not complete goes on
      have complete : g.isComplete = true := by
        by_contra unfinished
        obtain ⟨event, h, further⟩ :=
          Gather.Run.exists_next config.limit_pos run (Bool.eq_false_iff.mpr unfinished)
        exact ended event h further
      have none_waits : g.unanswered = [] := by
        have left := (Gather.isComplete_iff g).mp complete
        unfold Gather.work at left
        rw [← List.length_eq_zero_iff, Gather.length_unanswered]
        omega
      have all : g.sent = requests := (Gather.Run.of_isComplete run complete).1
      rw [none_waits, List.append_nil, all] at served
      exact ⟨all, served⟩
  · intro provider duration trace
    obtain ⟨asked, found⟩ := fetchTrace_eq config provider duration txs
    exact ⟨asked, peak_fetchTrace_le config provider duration txs, found⟩

/-- Two requests, of which the second is answered first and the first has failed. -/
theorem fetches_bounded_of_overtaking :
    let config : BatchConfig := { chunkSize := 1, concurrency := 2 }
    let txs : List Transaction := [{ hash := "a" }, { hash := "b" }]
    let outcomes : Nat → Option ResultsByHash := fun k => if k = 0 then none else some fun _ => none
    let events : List (Gather.Event (List (List ContractResult))) :=
      [.send, .send, .arrive 1 [[]], .arrive 0 [[]], .deliver, .deliver]
    ∃ g, FetchRun config txs outcomes events g ∧
      (∀ event h, ¬ FetchRun config txs outcomes (events ++ [event]) h) ∧
      Gather.peak config.limit (.start (hashChunks config txs).zipIdx) events ≤ 2 ∧
      Gather.answered config.limit (.start (hashChunks config txs).zipIdx) events =
        [(["b"], 1), (["a"], 0)] ∧
      g.sent = [(["a"], 0), (["b"], 1)] := by
  intro config txs outcomes events
  let first : List String × Nat := (["a"], 0)
  let second : List String × Nat := (["b"], 1)
  have one : FetchRun config txs outcomes [.send] ⟨[second], [first], [(first, none)], []⟩ :=
    .step .start trivial rfl
  have two : FetchRun config txs outcomes [.send, .send]
      ⟨[], [first, second], [(first, none), (second, none)], []⟩ := .step one trivial rfl
  have three : FetchRun config txs outcomes [.send, .send, .arrive 1 [[]]]
      ⟨[], [first, second], [(first, none), (second, some [[]])], []⟩ :=
    .step two (by rintro request ⟨⟩; rfl) rfl
  have four : FetchRun config txs outcomes [.send, .send, .arrive 1 [[]], .arrive 0 [[]]]
      ⟨[], [first, second], [(first, some [[]]), (second, some [[]])], []⟩ :=
    .step three (by rintro request ⟨⟩; rfl) rfl
  have five : FetchRun config txs outcomes [.send, .send, .arrive 1 [[]], .arrive 0 [[]], .deliver]
      ⟨[], [first, second], [(second, some [[]])], [[[]]]⟩ := .step four trivial rfl
  have run : FetchRun config txs outcomes events ⟨[], [first, second], [], [[[]], [[]]]⟩ :=
    .step five trivial rfl
  have ended := Gather.Run.not_next run rfl
  obtain ⟨-, bounded, -⟩ := fetches_bounded config txs
  obtain ⟨-, -, -, limit, final⟩ := bounded outcomes events _ run
  exact ⟨_, run, ended, limit, rfl, (final ended).1⟩

end ChainActivity
