import ChainActivity.Cache.Machine

/-!
# Steps of a machine

What a step of a machine changes, by the move of the thread that takes it.

## Main definitions

* `Machine.accessed`, `Machine.queued`, `Machine.freed`, `Machine.sent` — a machine after
  each kind of move.
* `Machine.Advance` — the steps of a thread, by its move.
* `Machine.Onward` — what a step of a machine can make of a thread.

## Main statements

* `Machine.advance_of_advance?` — a thread takes no other steps.
* `Machine.getElem?_freed_of_ne` — giving a lock back wakes at most one other thread.
* `Machine.running_of_step?` — a thread that can go on stays where it is until it does.
* `Machine.tiers_of_step?` — only accesses change the tiers.
* `Machine.now_le_of_runEvents?` — time does not run backwards.
* `Machine.invariant_of_runEvents?` — what every step preserves holds along every run.
* `Machine.onward_of_step?`, `Machine.thread_of_runEvents?` — what every step preserves of a
  thread stays true of it along every run.
-/

namespace ChainActivity.Machine

variable {σ κ ρ α : Type} {backend : Backend σ} {m m' : Machine σ κ ρ α} {i j : Nat}

/-! ### Threads -/

theorem getElem?_setThread_self {old : Thread κ ρ α} (present : m.threads[i]? = some old)
    (t : Thread κ ρ α) : (m.setThread i t).threads[i]? = some t := by
  have bound : i < m.threads.length := (List.getElem?_eq_some_iff.mp present).1
  exact List.getElem?_set_self bound

theorem getElem?_setThread_of_ne (other : j ≠ i) (t : Thread κ ρ α) :
    (m.setThread i t).threads[j]? = m.threads[j]? :=
  List.getElem?_set_ne other.symm

/-- What waking makes of a thread: one that waits can go on, any other stays. -/
def woken : Thread κ ρ α → Thread κ ρ α
  | .waiting p => .running p
  | t => t

/-- Waking touches one thread. -/
theorem getElem?_wake (m : Machine σ κ ρ α) (j k : Nat) :
    (m.wake j).threads[k]? = if j = k then m.threads[k]?.map woken else m.threads[k]? := by
  by_cases same : j = k
  · subst same
    rw [if_pos rfl]
    unfold wake
    split
    · next p waits => rw [getElem?_setThread_self waits, waits]; rfl
    · next awake =>
      rcases thread : m.threads[j]? with _ | t
      · rfl
      · cases t with
        | waiting p => exact absurd thread (awake p)
        | running p => rfl
        | producing request next => rfl
  · rw [if_neg same]
    unfold wake
    split
    · exact getElem?_setThread_of_ne (Ne.symm same) _
    · rfl

/-- Waking touches the threads only. -/
theorem wake_frame (m : Machine σ κ ρ α) (j : Nat) :
    (m.wake j).now = m.now ∧ (m.wake j).tiers = m.tiers ∧ (m.wake j).lines = m.lines ∧
      (m.wake j).asked = m.asked ∧ (m.wake j).threads.length = m.threads.length := by
  unfold wake
  split
  · exact ⟨rfl, rfl, rfl, rfl, List.length_set⟩
  · exact ⟨rfl, rfl, rfl, rfl, rfl⟩

/-! ### Moves -/

/-- A thread accesses a tier. -/
def accessed (backend : Backend σ) (m : Machine σ κ ρ α) (i : Nat) (step : StorageStep)
    (next : Instant → step.Answer → Program κ ρ α) : Machine σ κ ρ α :=
  { m with tiers := (step.perform backend m.now m.tiers).2 }.setThread i
    (.running (next m.now (step.perform backend m.now m.tiers).1))

/-- A thread stands in line for a lock, and has it if the line was empty. -/
def queued (m : Machine σ κ ρ α) (i : Nat) (domain : Domain) (next : Program κ ρ α) :
    Machine σ κ ρ α :=
  (m.setLine domain (m.lines domain ++ [i])).setThread i
    (if (m.lines domain).isEmpty then .running next else .waiting next)

/-- The head of a line is dropped, and the next one in it is woken. -/
def wakeNext (m : Machine σ κ ρ α) : List Nat → Machine σ κ ρ α
  | [] => m
  | j :: _ => m.wake j

/-- A thread gives a lock back. -/
def freed (m : Machine σ κ ρ α) (i : Nat) (domain : Domain) (next : Program κ ρ α) :
    Machine σ κ ρ α :=
  ((m.setLine domain ((m.lines domain).drop 1)).setThread i (.running next)).wakeNext
    ((m.lines domain).drop 1)

/-- A thread sends a request to its producer. -/
def sent (m : Machine σ κ ρ α) (i : Nat) (request : κ) (next : ρ → Program κ ρ α) :
    Machine σ κ ρ α :=
  { m with asked := m.asked ++ [(i, request)] }.setThread i (.producing request next)

/-- A thread that is ready to access a tier does so. -/
theorem advance?_of_storage {step : StorageStep} {next}
    (ready : m.threads[i]? = some (.running (.storage step next))) :
    m.advance? backend i = some (m.accessed backend i step next) := by
  rw [advance?, ready]
  rfl

/-- So does one that is ready to take a lock, to give one back, or to ask its producer. -/
theorem advance?_of_acquire {domain : Domain} {next}
    (ready : m.threads[i]? = some (.running (.acquire domain next))) :
    m.advance? backend i = some (m.queued i domain next) := by
  rw [advance?, ready]
  rfl

theorem advance?_of_release {domain : Domain} {next}
    (ready : m.threads[i]? = some (.running (.release domain next))) :
    m.advance? backend i = some (m.freed i domain next) := by
  rw [advance?, ready]
  cases waiting : (m.lines domain).drop 1 <;> simp [freed, wakeNext, waiting]

theorem advance?_of_produce {request : κ} {next}
    (ready : m.threads[i]? = some (.running (.produce request next))) :
    m.advance? backend i = some (m.sent i request next) := by
  rw [advance?, ready]
  rfl

/-- The steps of a thread, by its move. -/
inductive Advance (backend : Backend σ) (m : Machine σ κ ρ α) (i : Nat) :
    Machine σ κ ρ α → Prop where
  | access {step next} (ready : m.threads[i]? = some (.running (.storage step next))) :
    Advance backend m i (m.accessed backend i step next)
  | acquire {domain next} (ready : m.threads[i]? = some (.running (.acquire domain next))) :
    Advance backend m i (m.queued i domain next)
  | release {domain next} (ready : m.threads[i]? = some (.running (.release domain next))) :
    Advance backend m i (m.freed i domain next)
  | produce {request next} (ready : m.threads[i]? = some (.running (.produce request next))) :
    Advance backend m i (m.sent i request next)

/-- A thread takes no other steps. -/
theorem advance_of_advance? (advanced : m.advance? backend i = some m') :
    Advance backend m i m' := by
  have cases := advanced
  unfold advance? at cases
  split at cases
  · next ready =>
    obtain rfl := Option.some.inj ((advance?_of_storage ready).symm.trans advanced)
    exact .access ready
  · next ready =>
    obtain rfl := Option.some.inj ((advance?_of_acquire ready).symm.trans advanced)
    exact .acquire ready
  · next ready =>
    obtain rfl := Option.some.inj ((advance?_of_release ready).symm.trans advanced)
    exact .release ready
  · next ready =>
    obtain rfl := Option.some.inj ((advance?_of_produce ready).symm.trans advanced)
    exact .produce ready
  · exact nomatch cases

/-! ### What moves change -/

theorem getElem?_wakeNext (m : Machine σ κ ρ α) (line : List Nat) (k : Nat) :
    (m.wakeNext line).threads[k]? =
      if line.head? = some k then m.threads[k]?.map woken else m.threads[k]? := by
  cases line with
  | nil => rfl
  | cons j rest => simp only [wakeNext, getElem?_wake, List.head?_cons, Option.some.injEq]

theorem wakeNext_frame (m : Machine σ κ ρ α) (line : List Nat) :
    (m.wakeNext line).now = m.now ∧ (m.wakeNext line).tiers = m.tiers ∧
      (m.wakeNext line).lines = m.lines ∧ (m.wakeNext line).asked = m.asked ∧
      (m.wakeNext line).threads.length = m.threads.length := by
  cases line with
  | nil => exact ⟨rfl, rfl, rfl, rfl, rfl⟩
  | cons j rest => exact m.wake_frame j

/-- A thread that accesses a tier goes on with the answer. -/
theorem getElem?_accessed_self {step : StorageStep} {next}
    (ready : m.threads[i]? = some (.running (.storage step next))) :
    (m.accessed backend i step next).threads[i]? =
      some (.running (next m.now (step.perform backend m.now m.tiers).1)) :=
  List.getElem?_set_self (List.getElem?_eq_some_iff.mp ready).1

theorem getElem?_accessed_of_ne {step : StorageStep} {next} (other : j ≠ i) :
    (m.accessed backend i step next).threads[j]? = m.threads[j]? :=
  List.getElem?_set_ne other.symm

section Locks

variable (m) (i) (domain : Domain) (next : Program κ ρ α)

/-- A thread that wants a lock is the last in its line. -/
theorem lines_queued_self : (m.queued i domain next).lines domain = m.lines domain ++ [i] :=
  if_pos rfl

theorem lines_queued_of_ne {d : Domain} (other : d ≠ domain) :
    (m.queued i domain next).lines d = m.lines d :=
  if_neg other

/-- A thread that wants a lock goes on if nobody is before it, and waits otherwise. -/
theorem getElem?_queued_self {old : Thread κ ρ α} (present : m.threads[i]? = some old) :
    (m.queued i domain next).threads[i]? =
      some (if (m.lines domain).isEmpty then .running next else .waiting next) :=
  getElem?_setThread_self (m := m.setLine domain _) present _

theorem getElem?_queued_of_ne (other : j ≠ i) :
    (m.queued i domain next).threads[j]? = m.threads[j]? :=
  getElem?_setThread_of_ne other _

/-- Giving a lock back touches the line and the threads only. -/
theorem freed_frame :
    (m.freed i domain next).now = m.now ∧ (m.freed i domain next).tiers = m.tiers ∧
      (m.freed i domain next).asked = m.asked ∧
      (m.freed i domain next).threads.length = m.threads.length := by
  obtain ⟨time, tiers, -, asked, length⟩ := wakeNext_frame
    ((m.setLine domain ((m.lines domain).drop 1)).setThread i (.running next))
    ((m.lines domain).drop 1)
  exact ⟨time, tiers, asked, length.trans List.length_set⟩

/-- The line of a lock that is given back loses its head. -/
theorem lines_freed_self : (m.freed i domain next).lines domain = (m.lines domain).drop 1 := by
  rw [freed, (wakeNext_frame _ _).2.2.1]
  exact if_pos rfl

theorem lines_freed_of_ne {d : Domain} (other : d ≠ domain) :
    (m.freed i domain next).lines d = m.lines d := by
  rw [freed, (wakeNext_frame _ _).2.2.1]
  exact if_neg other

/-- A thread that gives a lock back goes on. -/
theorem getElem?_freed_self {old : Thread κ ρ α} (present : m.threads[i]? = some old) :
    (m.freed i domain next).threads[i]? = some (.running next) := by
  have set : ((m.setLine domain ((m.lines domain).drop 1)).setThread i
      (.running next)).threads[i]? = some (.running next) :=
    getElem?_setThread_self (m := m.setLine domain _) present _
  rw [freed, getElem?_wakeNext, set]
  split <;> rfl

/-- Of the others the next one in the line is woken. -/
theorem getElem?_freed_of_ne (other : j ≠ i) :
    (m.freed i domain next).threads[j]? =
      if ((m.lines domain).drop 1).head? = some j then m.threads[j]?.map woken
      else m.threads[j]? := by
  have same : ((m.setLine domain ((m.lines domain).drop 1)).setThread i
      (.running next)).threads[j]? = m.threads[j]? :=
    getElem?_setThread_of_ne other _
  rw [freed, getElem?_wakeNext, same]

end Locks

/-! ### Runs -/

/-- A thread whose step has not come stays as it is, except that it may be woken. -/
theorem thread_of_step? {event : Event ρ} {t : Thread κ ρ α}
    (stepped : m.step? backend event = some m') (present : m.threads[j]? = some t)
    (unmoved : ∀ i, event = .advance i → i ≠ j)
    (silent : ∀ i answer, event = .reply i answer → i ≠ j) :
    m'.threads[j]? = some t ∨ m'.threads[j]? = some (woken t) := by
  cases event with
  | advance i =>
    have other : j ≠ i := (unmoved i rfl).symm
    cases advance_of_advance? (show m.advance? backend i = some m' from stepped) with
    | access ready => exact .inl ((getElem?_setThread_of_ne other _).trans present)
    | acquire ready => exact .inl ((getElem?_setThread_of_ne other _).trans present)
    | produce ready => exact .inl ((getElem?_setThread_of_ne other _).trans present)
    | release ready =>
      rw [getElem?_freed_of_ne m i _ _ other, present]
      split
      · exact .inr rfl
      · exact .inl rfl
  | reply i answer =>
    have other : j ≠ i := (silent i answer rfl).symm
    have replied : m.reply? i answer = some m' := stepped
    unfold reply? at replied
    split at replied
    · obtain rfl := Option.some.inj replied
      exact .inl ((getElem?_setThread_of_ne other _).trans present)
    · exact nomatch replied
  | pass duration =>
    obtain rfl := Option.some.inj stepped
    exact .inl present

/-- A reply comes only where a producer is at work. -/
theorem producing_of_reply? {answer : ρ} (replied : m.reply? i answer = some m') :
    ∃ request next, m.threads[i]? = some (.producing request next) ∧
      m' = m.setThread i (.running (next answer)) := by
  unfold reply? at replied
  split at replied
  · next request next present => exact ⟨request, next, present, (Option.some.inj replied).symm⟩
  · exact nomatch replied

/-- A thread that can go on stays where it is until it does. -/
theorem running_of_step? {event : Event ρ} {p : Program κ ρ α}
    (stepped : m.step? backend event = some m') (present : m.threads[j]? = some (.running p))
    (unmoved : ∀ i, event = .advance i → i ≠ j) : m'.threads[j]? = some (.running p) := by
  have silent : ∀ i answer, event = .reply i answer → i ≠ j := by
    rintro i answer rfl rfl
    obtain ⟨request, next, works, -⟩ := producing_of_reply? stepped
    exact nomatch works.symm.trans present
  rcases thread_of_step? stepped present unmoved silent with same | same <;> exact same

/-- Only an access of a thread changes the tiers. -/
theorem tiers_of_step? {event : Event ρ} (stepped : m.step? backend event = some m') :
    m'.tiers = m.tiers ∨ ∃ i step next, event = .advance i ∧
      m.threads[i]? = some (.running (.storage step next)) ∧
      m'.tiers = (step.perform backend m.now m.tiers).2 := by
  cases event with
  | advance i =>
    cases advance_of_advance? (show m.advance? backend i = some m' from stepped) with
    | access ready => exact .inr ⟨i, _, _, rfl, ready, rfl⟩
    | acquire ready => exact .inl rfl
    | release ready => exact .inl (m.freed_frame i _ _).2.1
    | produce ready => exact .inl rfl
  | reply i answer =>
    obtain ⟨request, next, -, rfl⟩ := producing_of_reply? stepped
    exact .inl rfl
  | pass duration =>
    obtain rfl := Option.some.inj stepped
    exact .inl rfl

/-- Time does not run backwards. -/
theorem now_le_of_step? {event : Event ρ} (stepped : m.step? backend event = some m') :
    m.now ≤ m'.now := by
  cases event with
  | advance i =>
    cases advance_of_advance? (show m.advance? backend i = some m' from stepped) with
    | access ready => exact Int.le_refl _
    | acquire ready => exact Int.le_refl _
    | release ready => exact Int.le_of_eq (freed_frame m i _ _).1.symm
    | produce ready => exact Int.le_refl _
  | reply i answer =>
    obtain ⟨request, next, -, rfl⟩ := producing_of_reply? stepped
    exact Int.le_refl _
  | pass duration =>
    obtain rfl := Option.some.inj stepped
    exact Int.le_add_of_nonneg_right (Int.natCast_nonneg _)

/-- A run takes one step first. -/
theorem runEvents?_cons (backend : Backend σ) (m : Machine σ κ ρ α) (event : Event ρ)
    (events : List (Event ρ)) :
    m.runEvents? backend (event :: events) =
      (m.step? backend event).bind fun n => n.runEvents? backend events :=
  List.foldlM_cons

/-- A run may be cut anywhere. -/
theorem runEvents?_append (backend : Backend σ) (m : Machine σ κ ρ α)
    (first second : List (Event ρ)) :
    m.runEvents? backend (first ++ second) =
      (m.runEvents? backend first).bind fun n => n.runEvents? backend second :=
  List.foldlM_append

/-- Around each event of a run there are two machines, before it and after it. -/
theorem runEvents?_append_cons_iff {event : Event ρ} {before after : List (Event ρ)} :
    m.runEvents? backend (before ++ event :: after) = some m' ↔
      ∃ n n', m.runEvents? backend before = some n ∧ n.step? backend event = some n' ∧
        n'.runEvents? backend after = some m' := by
  simp only [runEvents?_append, runEvents?_cons, Option.bind_eq_some_iff]
  constructor
  · rintro ⟨n, first, n', stepped, later⟩
    exact ⟨n, n', first, stepped, later⟩
  · rintro ⟨n, n', first, stepped, later⟩
    exact ⟨n, first, n', stepped, later⟩

/-- Time does not run backwards during a run. -/
theorem now_le_of_runEvents? {events : List (Event ρ)}
    (ran : m.runEvents? backend events = some m') : m.now ≤ m'.now := by
  induction events generalizing m with
  | nil =>
    obtain rfl := Option.some.inj ran
    exact Int.le_refl _
  | cons event rest ih =>
    rw [runEvents?_cons, Option.bind_eq_some_iff] at ran
    obtain ⟨n, stepped, later⟩ := ran
    exact Int.le_trans (now_le_of_step? stepped) (ih later)

/-- What every step preserves holds along every run.  A step may be assumed to be one of
the run and to lie before its end. -/
theorem invariant_of_runEvents? {P : Machine σ κ ρ α → Prop} {events : List (Event ρ)}
    (ran : m.runEvents? backend events = some m') (start : P m)
    (step : ∀ n n' event, event ∈ events → n'.now ≤ m'.now → P n →
      n.step? backend event = some n' → P n') : P m' := by
  induction events generalizing m with
  | nil =>
    obtain rfl := Option.some.inj ran
    exact start
  | cons event rest ih =>
    rw [runEvents?_cons, Option.bind_eq_some_iff] at ran
    obtain ⟨n, stepped, later⟩ := ran
    have kept : P n :=
      step m n event List.mem_cons_self (now_le_of_runEvents? later) start stepped
    exact ih later kept fun k k' e member => step k k' e (List.mem_cons_of_mem event member)

/-- A thread that can go on stays where it is during a run in which it takes no step. -/
theorem running_of_runEvents? {events : List (Event ρ)} {p : Program κ ρ α}
    (ran : m.runEvents? backend events = some m') (present : m.threads[j]? = some (.running p))
    (unmoved : .advance j ∉ events) : m'.threads[j]? = some (.running p) := by
  have kept : ∀ n n' : Machine σ κ ρ α, ∀ event, event ∈ events → n'.now ≤ m'.now →
      n.threads[j]? = some (.running p) → n.step? backend event = some n' →
      n'.threads[j]? = some (.running p) := by
    intro n n' event member _ here stepped
    refine running_of_step? stepped here ?_
    rintro i rfl rfl
    exact unmoved member
  exact invariant_of_runEvents? ran present kept

/-! ### One thread -/

/-- What a step of a machine can make of a thread. -/
inductive Onward : Thread κ ρ α → Thread κ ρ α → Prop where
  | stay (t : Thread κ ρ α) : Onward t t
  | wake {next} : Onward (.waiting next) (.running next)
  | access {step : StorageStep} {next} (now : Instant) (answer : step.Answer) :
    Onward (.running (.storage step next)) (.running (next now answer))
  | acquire {domain next} : Onward (.running (.acquire domain next)) (.running next)
  | queue {domain next} : Onward (.running (.acquire domain next)) (.waiting next)
  | release {domain next} : Onward (.running (.release domain next)) (.running next)
  | ask {request next} : Onward (.running (.produce request next)) (.producing request next)
  | reply {request next} (answer : ρ) :
    Onward (.producing request next) (.running (next answer))

theorem onward_woken (t : Thread κ ρ α) : Onward t (woken t) := by
  cases t with
  | running p => exact .stay _
  | waiting p => exact .wake
  | producing request next => exact .stay _

/-- A step of a machine makes nothing else of a thread. -/
theorem onward_of_step? {event : Event ρ} {t : Thread κ ρ α}
    (stepped : m.step? backend event = some m') (present : m.threads[j]? = some t) :
    ∃ t', m'.threads[j]? = some t' ∧ Onward t t' := by
  by_cases moved : event = .advance j
  · subst moved
    cases advance_of_advance? (show m.advance? backend j = some m' from stepped) with
    | access ready =>
      obtain rfl := Option.some.inj (present.symm.trans ready)
      exact ⟨_, getElem?_accessed_self ready, .access _ _⟩
    | @acquire domain next ready =>
      obtain rfl := Option.some.inj (present.symm.trans ready)
      refine ⟨_, m.getElem?_queued_self j domain next ready, ?_⟩
      split
      · exact .acquire
      · exact .queue
    | release ready =>
      obtain rfl := Option.some.inj (present.symm.trans ready)
      exact ⟨_, m.getElem?_freed_self j _ _ ready, .release⟩
    | produce ready =>
      obtain rfl := Option.some.inj (present.symm.trans ready)
      exact ⟨_, getElem?_setThread_self (m := { m with asked := _ }) ready _, .ask⟩
  · by_cases replied : ∃ answer, event = .reply j answer
    · obtain ⟨answer, rfl⟩ := replied
      obtain ⟨request, next, works, rfl⟩ := producing_of_reply? stepped
      obtain rfl := Option.some.inj (present.symm.trans works)
      exact ⟨_, getElem?_setThread_self works _, .reply answer⟩
    · rcases thread_of_step? stepped present (fun i same equal => moved (equal ▸ same))
        (fun i answer same equal => replied ⟨answer, equal ▸ same⟩) with same | same
      · exact ⟨t, same, .stay t⟩
      · exact ⟨woken t, same, onward_woken t⟩

/-- A thread that gives a lock back and ends does so, or has not come to it yet. -/
theorem ended_of_step? {event : Event ρ} {domain : Domain} {value : α}
    (stepped : m.step? backend event = some m')
    (ending : m.threads[j]? = some (.running (.release domain (.done value))) ∨
      m.threads[j]? = some (.running (.done value))) :
    m'.threads[j]? = some (.running (.release domain (.done value))) ∨
      m'.threads[j]? = some (.running (.done value)) := by
  rcases ending with ready | ended
  · obtain ⟨t, there, onward⟩ := onward_of_step? stepped ready
    cases onward with
    | stay => exact .inl there
    | release => exact .inr there
  · obtain ⟨t, there, onward⟩ := onward_of_step? stepped ended
    cases onward with
    | stay => exact .inr there

/-- What no step makes untrue of a thread stays true of it along every run. -/
theorem thread_of_runEvents? {P : Thread κ ρ α → Prop} {events : List (Event ρ)}
    {t : Thread κ ρ α} (closed : ∀ u u', Onward u u' → P u → P u')
    (ran : m.runEvents? backend events = some m') (present : m.threads[j]? = some t)
    (holds : P t) : ∃ t', m'.threads[j]? = some t' ∧ P t' := by
  have kept : ∀ n n' : Machine σ κ ρ α, ∀ event, event ∈ events → n'.now ≤ m'.now →
      (∃ u, n.threads[j]? = some u ∧ P u) → n.step? backend event = some n' →
      ∃ u', n'.threads[j]? = some u' ∧ P u' := by
    rintro n n' event - - ⟨u, here, holds⟩ stepped
    obtain ⟨u', there, onward⟩ := onward_of_step? stepped here
    exact ⟨u', there, closed u u' onward holds⟩
  exact invariant_of_runEvents? ran ⟨t, present, holds⟩ kept

end ChainActivity.Machine
