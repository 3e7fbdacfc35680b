import ChainActivity.Proofs.Cache.Moves
import ChainActivity.Proofs.Cache.Threads

/-!
# Calls of an exclusive domain

Many calls that produce what is missing in one exclusive domain are under way
together, and with them programs that have nothing to do with the domain.  At most one
of the calls is past the lock.

## Main definitions

* `Task`, `Workload` — the calls of an exclusive domain, and the others.
* `Workload.IsInside` — where a call can stand while it holds the lock.
* `Workload.Place` — where a call stands, by its place in the line for the lock.
* `Workload.Next` — what a call that can go on does next.
* `Workload.Orderly` — the invariant of the machine.

## Main statements

* `Workload.Place.next` — the place of a call decides its next step.
* `Workload.Orderly.step`, `Workload.orderly_of_runEvents?` — the invariant holds along
  every run.

## Design notes

The line of a lock is the whole state of the lock: its head is past the lock, everybody
behind the head waits, and who is not in the line has not begun or has ended.  So the
invariant needs no holder of its own; when the head leaves, the next one becomes the
head and is woken in the same step.
-/

namespace ChainActivity

/-- What a thread does: it produces what is missing in a part of the exclusive domain,
or it runs a program of another kind. -/
inductive Task (κ ε α : Type) where
  | populate (part : Option String) (request : κ)
  | other (program : Program κ (Except ε α) (Ending (Except ε α)))

/-- The tasks of the threads of a machine, where one exclusive domain is reached by
tasks of the first kind only.  All values of a part have one codec. -/
structure Workload (κ ε α : Type) where
  config : CacheConfig
  domain : Domain
  exclusive : config.isExclusive domain = true
  codec : Option String → Codec α
  tasks : List (Task κ ε α)
  avoiding : ∀ p, Task.other p ∈ tasks → p.Only (Move.Avoids config domain)

/-- The programs of a thread that has not ended make only moves of a kind. -/
def Thread.Only {κ ρ α : Type} (allowed : Move κ → Prop) : Thread κ ρ α → Prop
  | running p | waiting p => p.Only allowed
  | producing _ next => ∀ reply, (next reply).Only allowed

namespace Workload

variable {κ ε α σ : Type} (w : Workload κ ε α)

/-- The slot of a part. -/
def slot (part : Option String) : Slot := ⟨w.domain, part⟩

/-- The key of a part. -/
def key (part : Option String) : String := w.config.key (w.slot part)

/-- Different parts have different keys. -/
theorem key_injective {part other : Option String} (same : w.key part = w.key other) :
    part = other :=
  congrArg Slot.part (w.config.key_injective same)

/-- Gives the lock back where a program ends, and ends with the same value. -/
def unlocking (p : Program κ (Except ε α) (Ending (Except ε α))) :
    Program κ (Except ε α) (Ending (Except ε α)) :=
  p.bind fun result => .release w.domain (.done result)

/-- What is done under the lock. -/
def locked (part : Option String) (request : κ) : Program κ (Except ε α) (Ending (Except ε α)) :=
  w.unlocking (Cache.produceIfMissing w.config (w.codec part) (w.slot part) request)

/-- What is done with a reply under the lock. -/
def storing (part : Option String) (reply : Except ε α) :
    Program κ (Except ε α) (Ending (Except ε α)) :=
  w.unlocking (Cache.afterReply w.config (w.codec part) (w.slot part) reply)

/-- The program of a task. -/
def program : Task κ ε α → Program κ (Except ε α) (Ending (Except ε α))
  | .populate part request => Cache.getOrProduce w.config (w.codec part) (w.slot part) request
  | .other p => p

/-- The machine before anything has happened, with any contents of the tiers. -/
def start (now : Instant) (tiers : Tiers σ) : Machine σ κ (Except ε α) (Ending (Except ε α)) :=
  .start now tiers (w.tasks.map w.program)

theorem program_populate (part : Option String) (request : κ) :
    w.program (.populate part request) = .acquire w.domain (w.locked part request) :=
  Cache.getOrProduce_of_exclusive w.config (w.codec part) (w.slot part) w.exclusive request

/-! ### Past the lock -/

/-- The moves of a call past the lock, except for its request: near entries are written
under one key only. -/
def OwnMove (key : String) : Move κ → Prop
  | .access (.writeNear k _ _) => k = key
  | .access _ => True
  | _ => False

theorem ownMove_access {key : String} {step : StorageStep} (own : step.key? = some key) :
    (OwnMove key : Move κ → Prop) (.access step) := by
  cases step with
  | writeNear k text since => exact Option.some.inj own
  | _ => trivial

/-- Where a call can stand while it holds the lock: it is reading, its producer is at
work, or it is storing and giving the lock back. -/
def IsInside (part : Option String) (request : κ)
    (t : Thread κ (Except ε α) (Ending (Except ε α))) :
    Prop :=
  (∃ reading : Program κ (Except ε α) (Option α), reading.Only (OwnMove (w.key part)) ∧
    t = .running (w.unlocking (reading.bind
      (Cache.afterGet w.config (w.codec part) (w.slot part) request)))) ∨
  t = .producing request (w.storing part) ∨
  ∃ ending : Program κ (Except ε α) (Ending (Except ε α)), ending.Only (OwnMove (w.key part)) ∧
    t = .running (w.unlocking ending)

namespace IsInside

variable {w} {part : Option String} {request : κ}

/-- A call that has just got the lock is past it. -/
theorem locked : w.IsInside part request (.running (w.locked part request)) :=
  .inl ⟨_, Cache.only_get (fun _ => ownMove_access) (w.codec part), rfl⟩

/-- A call whose producer has replied is past the lock. -/
theorem storing (reply : Except ε α) :
    w.IsInside part request (.running (w.storing part reply)) :=
  .inr (.inr ⟨_, Cache.only_afterReply (fun _ => ownMove_access) (w.codec part) reply, rfl⟩)

/-- A producer that is at work past the lock was asked by the call, and its reply is
stored. -/
theorem producing_eq {sent : κ} {next}
    (inside : w.IsInside part request (.producing sent next)) : next = w.storing part := by
  rcases inside with ⟨reading, only, same⟩ | same | ⟨ending, only, same⟩
  · exact nomatch same
  · exact (Thread.producing.inj same).2
  · exact nomatch same

end IsInside

/-! ### Places in the line -/

/-- Whether a call has not begun or has ended. -/
def IsOutside (part : Option String) (request : κ)
    (t : Thread κ (Except ε α) (Ending (Except ε α))) :
    Prop :=
  t = .running (w.program (.populate part request)) ∨ ∃ result, t = .running (.done result)

/-- Where a call stands, by its place in the line for the lock. -/
inductive Place (line : List Nat) (i : Nat) (part : Option String) (request : κ)
    (t : Thread κ (Except ε α) (Ending (Except ε α))) : Prop where
  | outside (absent : i ∉ line) (idle : w.IsOutside part request t)
  | waiting (behind : i ∈ line.tail) (waits : t = .waiting (w.locked part request))
  | inside (first : line.head? = some i) (inside : w.IsInside part request t)

/-- What a call that can go on does next.  Who is not in the line asks for the lock, or
has ended; the head of the line accesses tiers and writes near entries under one key
only, asks its producer, or gives the lock back and ends. -/
inductive Next (line : List Nat) (i : Nat) (part : Option String) (request : κ) :
    Program κ (Except ε α) (Ending (Except ε α)) → Prop where
  | acquire (absent : i ∉ line) :
    Next line i part request (.acquire w.domain (w.locked part request))
  | ended (absent : i ∉ line) (result : Ending (Except ε α)) :
    Next line i part request (.done result)
  | access {step : StorageStep} {next} (first : line.head? = some i)
      (own : (OwnMove (w.key part) : Move κ → Prop) (.access step))
      (onward : ∀ now answer, w.IsInside part request (.running (next now answer))) :
    Next line i part request (.storage step next)
  | ask (first : line.head? = some i) :
    Next line i part request (.produce request (w.storing part))
  | release (first : line.head? = some i) (result : Ending (Except ε α)) :
    Next line i part request (.release w.domain (.done result))

/-- What is known about the thread of a task. -/
def Sound (line : List Nat) (i : Nat) :
    Task κ ε α → Thread κ (Except ε α) (Ending (Except ε α)) → Prop
  | .populate part request, t => w.Place line i part request t
  | .other _, t => t.Only (Move.Avoids w.config w.domain)

namespace Place

variable {w} {line : List Nat} {i j : Nat} {part : Option String} {request : κ}
  {t : Thread κ (Except ε α) (Ending (Except ε α))}
  {p : Program κ (Except ε α) (Ending (Except ε α))}

/-- Somebody else may join the line. -/
theorem append (place : w.Place line j part request t) (other : j ≠ i) :
    w.Place (line ++ [i]) j part request t := by
  cases place with
  | outside absent idle =>
    refine .outside (fun member => ?_) idle
    rcases List.mem_append.mp member with earlier | last
    · exact absent earlier
    · exact other (List.mem_singleton.mp last)
  | waiting behind waits =>
    refine .waiting ?_ waits
    cases line with
    | nil => exact nomatch behind
    | cons head tail => exact List.mem_append_left [i] behind
  | inside first inside =>
    refine .inside ?_ inside
    rw [List.head?_append, first]
    rfl

/-- The place of a call decides what it does next. -/
theorem next (place : w.Place line i part request (.running p)) :
    w.Next line i part request p := by
  cases place with
  | outside absent idle =>
    rcases idle with same | ⟨result, same⟩
    · rw [program_populate] at same
      obtain rfl := Thread.running.inj same
      exact .acquire absent
    · obtain rfl := Thread.running.inj same
      exact .ended absent result
  | waiting behind waits => exact nomatch waits
  | inside first inside =>
    -- a program that makes only its own moves either has ended or accesses a tier
    rcases inside with ⟨reading, only, same⟩ | same | ⟨ending, only, same⟩
    · obtain rfl := Thread.running.inj same
      cases reading with
      | done found =>
        cases found with
        | none => exact .ask first
        | some value => exact .release first (.value (.ok value))
      | storage step next =>
        exact .access first only.1 fun now answer =>
          .inl ⟨next now answer, only.2 now answer, rfl⟩
      | acquire domain next => exact absurd only.1 id
      | release domain next => exact absurd only.1 id
      | produce other next => exact absurd only.1 id
    · exact nomatch same
    · obtain rfl := Thread.running.inj same
      cases ending with
      | done result => exact .release first result
      | storage step next =>
        exact .access first only.1 fun now answer =>
          .inr (.inr ⟨next now answer, only.2 now answer, rfl⟩)
      | acquire domain next => exact absurd only.1 id
      | release domain next => exact absurd only.1 id
      | produce other next => exact absurd only.1 id

end Place

/-! ### The invariant -/

/-- A machine in which every call of the domain stands where its place in the line says,
and the others have nothing to do with the domain. -/
structure Orderly (m : Machine σ κ (Except ε α) (Ending (Except ε α))) : Prop where
  length : m.threads.length = w.tasks.length
  nodup : (m.lines w.domain).Nodup
  member : ∀ i ∈ m.lines w.domain, ∃ part request, w.tasks[i]? = some (.populate part request)
  stranger : ∀ d, d ≠ w.domain → ∀ i ∈ m.lines d, ∃ p, w.tasks[i]? = some (.other p)
  thread : ∀ i task t, w.tasks[i]? = some task → m.threads[i]? = some t →
    w.Sound (m.lines w.domain) i task t

namespace Orderly

variable {w} {backend : Backend σ} {m m' : Machine σ κ (Except ε α) (Ending (Except ε α))} {i : Nat}
  {t : Thread κ (Except ε α) (Ending (Except ε α))}

/-- Every thread has a task. -/
theorem exists_task (orderly : w.Orderly m) (present : m.threads[i]? = some t) :
    ∃ task, w.tasks[i]? = some task := by
  have bound : i < m.threads.length := (List.getElem?_eq_some_iff.mp present).1
  rw [orderly.length] at bound
  exact ⟨_, List.getElem?_eq_getElem bound⟩

/-- One thread may change, if what is known about it stays true, and so may everything
but the lines. -/
theorem update (orderly : w.Orderly m) {old : Thread κ (Except ε α) (Ending (Except ε α))}
    (present : m.threads[i]? = some old) (lines : m'.lines = m.lines)
    (threads : m'.threads = m.threads.set i t)
    (sound : ∀ task, w.Sound (m.lines w.domain) i task old →
      w.Sound (m.lines w.domain) i task t) : w.Orderly m' where
  length := by rw [threads, List.length_set, orderly.length]
  nodup := lines ▸ orderly.nodup
  member := lines ▸ orderly.member
  stranger := lines ▸ orderly.stranger
  thread j task u tasked found := by
    rw [lines]
    rw [threads] at found
    by_cases same : j = i
    · subst same
      rw [List.getElem?_set_self (List.getElem?_eq_some_iff.mp present).1] at found
      obtain rfl := Option.some.inj found
      exact sound task (orderly.thread j task old tasked present)
    · rw [List.getElem?_set_ne (Ne.symm same)] at found
      exact orderly.thread j task u tasked found

/-- An access to a tier keeps order. -/
theorem accessed (orderly : w.Orderly m) {step : StorageStep} {next}
    (ready : m.threads[i]? = some (.running (.storage step next))) :
    w.Orderly (m.accessed backend i step next) := by
  refine orderly.update ready rfl rfl fun task sound => ?_
  cases task with
  | other p => exact sound.2 _ _
  | populate part request =>
    cases sound.next with
    | access first own onward => exact .inside first (onward _ _)

/-- A request to a producer keeps order. -/
theorem sent (orderly : w.Orderly m) {request : κ} {next}
    (ready : m.threads[i]? = some (.running (.produce request next))) :
    w.Orderly (m.sent i request next) := by
  refine orderly.update ready rfl rfl fun task sound => ?_
  cases task with
  | other p => exact sound.2
  | populate part wanted =>
    cases sound.next with
    | ask first => exact .inside first (.inr (.inl rfl))

/-- A reply of a producer keeps order. -/
theorem replied (orderly : w.Orderly m) {request : κ} {next}
    (works : m.threads[i]? = some (.producing request next)) (answer : Except ε α) :
    w.Orderly (m.setThread i (.running (next answer))) := by
  refine orderly.update works rfl rfl fun task sound => ?_
  cases task with
  | other p => exact sound answer
  | populate part wanted =>
    cases sound with
    | outside absent idle => rcases idle with same | ⟨result, same⟩ <;> exact nomatch same
    | waiting behind waits => exact nomatch waits
    | inside first inside =>
      rw [inside.producing_eq]
      exact .inside first (.storing answer)

/-- Joining the line of another domain keeps order. -/
theorem queued_of_ne (orderly : w.Orderly m) {d : Domain} {next}
    (ready : m.threads[i]? = some (.running (.acquire d next))) (apart : d ≠ w.domain)
    {p : Program κ (Except ε α) (Ending (Except ε α))} (tasked : w.tasks[i]? = some (.other p)) :
    w.Orderly (m.queued i d next) := by
  have line := m.lines_queued_of_ne i d next (Ne.symm apart)
  have only : (next : Program κ (Except ε α) (Ending (Except ε α))).Only
      (Move.Avoids w.config w.domain) :=
    (orderly.thread i _ _ tasked ready).2
  refine ⟨?_, line ▸ orderly.nodup, line ▸ orderly.member, ?_, ?_⟩
  · exact List.length_set.trans orderly.length
  · intro e foreign j member
    by_cases same : e = d
    · subst same
      rw [m.lines_queued_self] at member
      rcases List.mem_append.mp member with earlier | last
      · exact orderly.stranger e foreign j earlier
      · exact ⟨p, List.mem_singleton.mp last ▸ tasked⟩
    · rw [m.lines_queued_of_ne i d next same] at member
      exact orderly.stranger e foreign j member
  · intro j task t tasked' found
    rw [line]
    by_cases same : j = i
    · subst same
      obtain rfl := Option.some.inj (tasked.symm.trans tasked')
      rw [m.getElem?_queued_self j d next ready] at found
      obtain rfl := Option.some.inj found
      change Thread.Only _ (if _ then _ else _)
      split <;> exact only
    · rw [m.getElem?_queued_of_ne i d next same] at found
      exact orderly.thread j task t tasked' found

/-- Joining the line of the domain keeps order: a call gets the lock if nobody has it. -/
theorem queued_self (orderly : w.Orderly m) {part : Option String} {request : κ}
    (ready : m.threads[i]? = some (.running (.acquire w.domain (w.locked part request))))
    (absent : i ∉ m.lines w.domain) (tasked : w.tasks[i]? = some (.populate part request)) :
    w.Orderly (m.queued i w.domain (w.locked part request)) := by
  have line := m.lines_queued_self i w.domain (w.locked part request)
  refine ⟨?_, ?_, ?_, ?_, ?_⟩
  · exact List.length_set.trans orderly.length
  · rw [line, List.nodup_append]
    refine ⟨orderly.nodup, List.nodup_cons.mpr ⟨List.not_mem_nil, List.nodup_nil⟩, ?_⟩
    rintro j earlier k last rfl
    exact absent (List.mem_singleton.mp last ▸ earlier)
  · intro j member
    rw [line] at member
    rcases List.mem_append.mp member with earlier | last
    · exact orderly.member j earlier
    · exact ⟨part, request, List.mem_singleton.mp last ▸ tasked⟩
  · intro e foreign j member
    rw [m.lines_queued_of_ne i w.domain _ foreign] at member
    exact orderly.stranger e foreign j member
  · intro j task t tasked' found
    rw [line]
    by_cases same : j = i
    · subst same
      obtain rfl := Option.some.inj (tasked.symm.trans tasked')
      rw [m.getElem?_queued_self j w.domain _ ready] at found
      obtain rfl := Option.some.inj found
      -- the lock is free exactly if nobody stands in the line
      rcases waiting : m.lines w.domain with _ | ⟨head, tail⟩
      · exact .inside rfl .locked
      · exact .waiting (List.mem_append_right tail List.mem_cons_self) rfl
    · rw [m.getElem?_queued_of_ne i w.domain _ same] at found
      have sound := orderly.thread j task t tasked' found
      cases task with
      | other p => exact sound
      | populate part request => exact sound.append same

/-- A thread that joins a line keeps order. -/
theorem queued (orderly : w.Orderly m) {d : Domain} {next}
    (ready : m.threads[i]? = some (.running (.acquire d next))) :
    w.Orderly (m.queued i d next) := by
  obtain ⟨task, tasked⟩ := orderly.exists_task ready
  have sound := orderly.thread i task _ tasked ready
  cases task with
  | other p => exact orderly.queued_of_ne ready sound.1 tasked
  | populate part request =>
    cases sound.next with
    | acquire absent => exact orderly.queued_self ready absent tasked

/-- Giving back the lock of another domain keeps order. -/
theorem freed_of_ne (orderly : w.Orderly m) {d : Domain} {next}
    (ready : m.threads[i]? = some (.running (.release d next))) (apart : d ≠ w.domain)
    {p : Program κ (Except ε α) (Ending (Except ε α))} (tasked : w.tasks[i]? = some (.other p)) :
    w.Orderly (m.freed i d next) := by
  obtain ⟨-, -, -, length⟩ := m.freed_frame i d next
  have line := m.lines_freed_of_ne i d next (Ne.symm apart)
  have only : (next : Program κ (Except ε α) (Ending (Except ε α))).Only
      (Move.Avoids w.config w.domain) :=
    (orderly.thread i _ _ tasked ready).2
  refine ⟨length.trans orderly.length, line ▸ orderly.nodup, line ▸ orderly.member, ?_, ?_⟩
  · intro e foreign j member
    by_cases same : e = d
    · subst same
      rw [m.lines_freed_self] at member
      exact orderly.stranger e foreign j (List.mem_of_mem_drop member)
    · rw [m.lines_freed_of_ne i d next same] at member
      exact orderly.stranger e foreign j member
  · intro j task t tasked' found
    rw [line]
    by_cases same : j = i
    · subst same
      obtain rfl := Option.some.inj (tasked.symm.trans tasked')
      rw [m.getElem?_freed_self j d next ready] at found
      obtain rfl := Option.some.inj found
      exact only
    · rw [m.getElem?_freed_of_ne i d next same] at found
      split at found
      · next woken =>
        -- only threads of other tasks stand in the lines of other domains
        have member : j ∈ m.lines d := List.mem_of_mem_drop (List.mem_of_mem_head? woken)
        obtain ⟨q, foreign⟩ := orderly.stranger d apart j member
        obtain rfl := Option.some.inj (foreign.symm.trans tasked')
        rw [Option.map_eq_some_iff] at found
        obtain ⟨old, present, rfl⟩ := found
        have sound := orderly.thread j _ old foreign present
        cases old <;> exact sound
      · exact orderly.thread j task t tasked' found

/-- Giving back the lock of the domain keeps order: the next in the line is past it. -/
theorem freed_self (orderly : w.Orderly m) {result : Ending (Except ε α)}
    (ready : m.threads[i]? = some (.running (.release w.domain (.done result))))
    (first : (m.lines w.domain).head? = some i) :
    w.Orderly (m.freed i w.domain (.done result)) := by
  obtain ⟨-, -, -, length⟩ := m.freed_frame i w.domain (.done result)
  obtain ⟨rest, line⟩ : ∃ rest, m.lines w.domain = i :: rest := List.head?_eq_some_iff.mp first
  have behind : (m.freed i w.domain (.done result)).lines w.domain = rest := by
    rw [m.lines_freed_self, line]
    rfl
  have nodup : i ∉ rest ∧ rest.Nodup := List.nodup_cons.mp (line ▸ orderly.nodup)
  refine ⟨length.trans orderly.length, behind ▸ nodup.2, ?_, ?_, ?_⟩
  · intro j member
    rw [behind] at member
    exact orderly.member j (line ▸ List.mem_cons_of_mem i member)
  · intro e foreign j member
    rw [m.lines_freed_of_ne i w.domain _ foreign] at member
    exact orderly.stranger e foreign j member
  · intro j task t tasked found
    rw [behind]
    by_cases same : j = i
    · subst same
      rw [m.getElem?_freed_self j w.domain _ ready] at found
      obtain rfl := Option.some.inj found
      obtain ⟨part, request, populates⟩ := orderly.member j (line ▸ List.mem_cons_self)
      obtain rfl := Option.some.inj (populates.symm.trans tasked)
      exact .outside nodup.1 (.inr ⟨result, rfl⟩)
    · rw [m.getElem?_freed_of_ne i w.domain _ same, line, List.drop_one, List.tail_cons] at found
      cases task with
      | other p =>
        have unwoken : rest.head? ≠ some j := by
          intro woken
          obtain ⟨part, request, populates⟩ :=
            orderly.member j (line ▸ List.mem_cons_of_mem i (List.mem_of_mem_head? woken))
          exact nomatch populates.symm.trans tasked
        rw [if_neg unwoken] at found
        exact orderly.thread j _ t tasked found
      | populate part request =>
        obtain ⟨old, present⟩ : ∃ old, m.threads[j]? = some old := by
          split at found
          · rw [Option.map_eq_some_iff] at found
            obtain ⟨old, present, -⟩ := found
            exact ⟨old, present⟩
          · exact ⟨t, found⟩
        have place := orderly.thread j _ old tasked present
        rw [present] at found
        rw [line] at place
        cases place with
        | outside absent idle =>
          have absent : j ∉ rest := fun member => absent (List.mem_cons_of_mem i member)
          have unwoken : rest.head? ≠ some j := fun woken => absent (List.mem_of_mem_head? woken)
          rw [if_neg unwoken] at found
          obtain rfl := Option.some.inj found
          exact .outside absent idle
        | waiting behind waits =>
          -- it is woken if it is the next one, and then it is the head of the line
          subst waits
          by_cases next : rest.head? = some j
          · rw [if_pos next] at found
            obtain rfl := Option.some.inj found
            exact .inside next .locked
          · rw [if_neg next] at found
            obtain rfl := Option.some.inj found
            obtain ⟨k, later, rfl⟩ := List.exists_cons_of_ne_nil (List.ne_nil_of_mem behind)
            refine .waiting ?_ rfl
            rcases List.mem_cons.mp behind with rfl | member
            · exact absurd rfl next
            · exact member
        | inside ahead inside => exact absurd (Option.some.inj ahead).symm same

/-- A thread that gives a lock back keeps order. -/
theorem freed (orderly : w.Orderly m) {d : Domain} {next}
    (ready : m.threads[i]? = some (.running (.release d next))) :
    w.Orderly (m.freed i d next) := by
  obtain ⟨task, tasked⟩ := orderly.exists_task ready
  have sound := orderly.thread i task _ tasked ready
  cases task with
  | other p => exact orderly.freed_of_ne ready sound.1 tasked
  | populate part request =>
    cases sound.next with
    | release first result => exact orderly.freed_self ready first

/-- Every step keeps order. -/
theorem step (orderly : w.Orderly m) {event : Machine.Event (Except ε α)}
    (stepped : m.step? backend event = some m') : w.Orderly m' := by
  cases event with
  | advance i =>
    cases Machine.advance_of_advance? (show m.advance? backend i = some m' from stepped) with
    | access ready => exact orderly.accessed ready
    | acquire ready => exact orderly.queued ready
    | release ready => exact orderly.freed ready
    | produce ready => exact orderly.sent ready
  | reply i answer =>
    obtain ⟨request, next, works, rfl⟩ := Machine.producing_of_reply? stepped
    exact orderly.replied works answer
  | pass duration =>
    obtain rfl := Option.some.inj stepped
    exact ⟨orderly.length, orderly.nodup, orderly.member, orderly.stranger, orderly.thread⟩

end Orderly

/-- Before anything has happened there is order. -/
theorem orderly_start (now : Instant) (tiers : Tiers σ) : w.Orderly (w.start now tiers) where
  length := by simp [start, Machine.start]
  nodup := List.nodup_nil
  member _ member := nomatch member
  stranger _ _ _ member := nomatch member
  thread i task t tasked present := by
    have program : t = .running (w.program task) := by
      rw [start, Machine.start, List.getElem?_map, List.getElem?_map, tasked] at present
      exact (Option.some.inj present).symm
    subst program
    cases task with
    | other p => exact w.avoiding p (List.mem_of_getElem? tasked)
    | populate part request => exact .outside List.not_mem_nil (.inl rfl)

/-- There is order along every run. -/
theorem orderly_of_runEvents? {backend : Backend σ} {now : Instant} {tiers : Tiers σ}
    {events : List (Machine.Event (Except ε α))}
    {m : Machine σ κ (Except ε α) (Ending (Except ε α))}
    (ran : (w.start now tiers).runEvents? backend events = some m) : w.Orderly m :=
  Machine.invariant_of_runEvents? ran (w.orderly_start now tiers)
    fun _ _ _ _ _ orderly stepped => orderly.step stepped

end Workload

end ChainActivity
