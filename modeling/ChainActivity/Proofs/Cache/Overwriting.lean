import ChainActivity.Proofs.Cache.Shared
import ChainActivity.Proofs.Cache.Threads

/-!
# Reading while a value is stored

Any number of calls read one slot of a cache while another call stores a value there,
over a durable tier in memory.  A reader that finds nothing in the near tier copies what
the durable tier has, in steps between which the value may be stored.

## Main definitions

* `Visit`, `Traffic` — the readers of a slot, and the other threads of a machine.
* `Traffic.Stage` — where a reader can stand, and what it copies and answers.
* `Traffic.Current` — the invariant: both tiers have a text, and no reader copies another.
* `Traffic.Undisturbed` — whether only readers touch the key.

## Main statements

* `Traffic.Stage.of_step?` — a reader takes its own steps only, at most four.
* `Traffic.Current.step`, `Traffic.Current.of_runEvents?` — a current text stays current.
* `Traffic.reader_after_setting` — readers that begin after a value was stored find it.
* `Traffic.not_read_after_setting` — what they find in other cases.

## Design notes

Between reading the durable tier and copying what it read a reader asks for the rest of
the lifetime.  If a value is stored in between, the copy of an older text ends up in the
near tier, and the rest of the lifetime, asked for too late, is that of the new text.  So
a text is current only from the moment on at which no reader carries an older one.

A reader is a lookup at some age, which is the lifetime of the slot or has no bound.  Its
stages are named, and not only the moves that are left to it, because a reader may copy
every text as long as it has not asked the durable tier.
-/

namespace ChainActivity

/-- A thread that reads a slot, using near entries up to some age, and reports what it
found; or one that runs another program. -/
inductive Visit (κ ρ β : Type) : Type 1 where
  | read {α : Type} (codec : Codec α) (maxAge : Option Nat) (report : Option α → β)
  | other (program : Program κ ρ β)

/-- The threads of a machine, any number of which read one slot. -/
structure Traffic (κ ρ β : Type) : Type 1 where
  config : CacheConfig
  slot : Slot
  visits : List (Visit κ ρ β)

/-- Whether an access neither stores a text under a key nor drops everything. -/
def StorageStep.Spares (key : String) : StorageStep → Prop
  | writeNear k _ _ | durableSet k _ _ => k ≠ key
  | durableFlush => False
  | readNear _ | durableGet _ | durableTtl _ => True

/-- An access that spares a key changes neither text under it. -/
theorem StorageStep.Spares.get?_perform {key : String} {step : StorageStep}
    (spares : step.Spares key) (now : Instant) (tiers : Tiers ExpiringTexts) :
    (step.perform .memory now tiers).2.near.get? key = tiers.near.get? key ∧
      (step.perform .memory now tiers).2.durable.get? key = tiers.durable.get? key := by
  cases step with
  | writeNear k text since => exact ⟨Keyed.get?_insert_of_ne _ spares _, rfl⟩
  | durableSet k text lifetime =>
    refine ⟨rfl, ?_⟩
    rcases Backend.keepsAtMost_memory.set_kept k text lifetime now tiers.durable with same | stored
    · exact congrArg (Keyed.get? · key) same
    · exact (congrArg (Keyed.get? · key) stored).trans (Keyed.get?_insert_of_ne _ spares _)
  | durableFlush => exact absurd spares id
  | readNear k => exact ⟨rfl, rfl⟩
  | durableGet k => exact ⟨rfl, rfl⟩
  | durableTtl k => exact ⟨rfl, rfl⟩

namespace Machine

/-- Whether an event is a step of a thread. -/
def Event.isStepOf {ρ : Type} (j : Nat) : Event ρ → Bool
  | advance i => i == j
  | reply .. | pass _ => false

theorem Event.eq_advance {ρ : Type} {event : Event ρ} {j : Nat}
    (own : event.isStepOf j = true) : event = .advance j := by
  cases event with
  | advance i => exact congrArg _ (beq_iff_eq.mp own)
  | reply i answer => exact absurd own Bool.false_ne_true
  | pass duration => exact absurd own Bool.false_ne_true

theorem Event.isStepOf_self {ρ : Type} (j : Nat) : (advance j : Event ρ).isStepOf j = true :=
  beq_self_eq_true j

/-- How many steps a thread takes among some events. -/
def stepsOf {ρ : Type} (j : Nat) (events : List (Event ρ)) : Nat :=
  events.countP (Event.isStepOf j)

end Machine

namespace Traffic

variable {κ ρ α β : Type} (w : Traffic κ ρ β)

/-- The key of the slot. -/
def key : String := w.config.key w.slot

/-- How long a value of the slot lives. -/
def lifetime : Nat := w.config.lifetime w.slot.domain

/-- Whether a thread reads the slot. -/
def IsReader (i : Nat) : Prop :=
  ∃ (α : Type) (codec : Codec α) (maxAge : Option Nat) (report : Option α → β),
    w.visits[i]? = some (.read codec maxAge report)

section Programs

variable (codec : Codec α) (maxAge : Option Nat) (report : Option α → β)

/-- A reader that has not begun: with the lifetime of the slot as the age it is `Cache.get`,
and with no bound on the age it is `Cache.peek`. -/
def looking : Program κ ρ β :=
  (Cache.lookup w.config codec w.slot maxAge).bind fun found => .done (report found)

/-- A reader that asks the durable tier next. -/
def fetching : Program κ ρ β :=
  (Cache.fetch w.config codec w.slot).bind fun found => .done (report found)

/-- A reader that has still to copy a text, as of some moment. -/
def writing (text : String) (since : Instant) (answer : β) : Program κ ρ β :=
  .storage (.writeNear w.key text (some since)) fun _ _ => .done answer

/-- A reader that asks how long a text is still kept, which it copies then. -/
def copying (text : String) (now : Instant) (answer : β) : Program κ ρ β :=
  .storage (.durableTtl w.key) fun _ remaining =>
    w.writing text (Cache.backdated now w.lifetime (remaining.toOption.getD none)) answer

/-- A call that has still to store a text in the durable tier. -/
def storing (text : String) (result : Ending (Except CacheError Unit) → β) : Program κ ρ β :=
  .storage (.durableSet w.key text w.lifetime) fun _ ending =>
    .done (result (ending.map fun _ => .ok ()))

/-- A call that stores a value. -/
def setting (value : α) (result : Ending (Except CacheError Unit) → β) : Program κ ρ β :=
  (Cache.set w.config codec w.slot value).bind fun answer => .done (result answer)

/-- A reader that looks for a value ends with a near entry that it may use. -/
theorem looking_eq : w.looking codec maxAge report =
    (.storage (.readNear w.key) fun now entry? =>
      match entry? with
      | some entry =>
        if Cache.isUsable now maxAge entry then .done (report (codec.decode entry.text))
        else w.fetching codec report
      | none => w.fetching codec report : Program κ ρ β) := by
  change Program.storage _ _ = Program.storage _ _
  congr 1
  funext now entry?
  rcases entry? with _ | entry
  · rfl
  · change Program.bind (if Cache.isUsable now maxAge entry = true then _ else _) _ = ite _ _ _
    split <;> rfl

/-- A reader that has a durable text copies it if it can be read. -/
theorem fetching_eq : w.fetching codec report =
    (.storage (.durableGet w.key) fun now answer =>
      match answer with
      | .ok (some text) =>
        match codec.decode text with
        | none => .done (report none)
        | some value => w.copying text now (report (some value))
      | _ => .done (report none) : Program κ ρ β) := by
  change Program.storage _ _ = Program.storage _ _
  congr 1
  funext now answer
  rcases answer with e | text?
  · rfl
  · rcases text? with _ | text
    · rfl
    · dsimp only [Program.bind]
      cases codec.decode text with
      | none => rfl
      | some value => rfl

/-- A value that can be written is stored in the near tier first. -/
theorem setting_eq {value : α} {text : String} (written : codec.encode value = .ok text)
    (result : Ending (Except CacheError Unit) → β) :
    (w.setting codec value result : Program κ ρ β) =
      .storage (.writeNear w.key text none) fun _ _ => w.storing text result := by
  rw [setting, Cache.set, written]
  rfl

end Programs

/-! ### Stages of a reader -/

section Stages

variable (codec : Codec α) (maxAge : Option Nat) (report : Option α → β)

/-- Where a reader can stand, with the number of steps that it takes at most, if the
texts that it copies are of some kind, and so is what it answers. -/
inductive Stage (Copied : String → Prop) (Answers : β → Prop) : Nat → Program κ ρ β → Prop where
  | looking : Stage Copied Answers 4 (w.looking codec maxAge report)
  | fetching : Stage Copied Answers 3 (w.fetching codec report)
  | copying {text : String} {answer : β} (now : Instant) (copied : Copied text)
      (answers : Answers answer) : Stage Copied Answers 2 (w.copying text now answer)
  | writing {text : String} {answer : β} (since : Instant) (copied : Copied text)
      (answers : Answers answer) : Stage Copied Answers 1 (w.writing text since answer)
  | ended {answer : β} (answers : Answers answer) : Stage Copied Answers 0 (.done answer)

/-- Tiers in which a reader finds what it may copy and answer. -/
structure Serves (Copied : String → Prop) (Answers : β → Prop) (now : Instant)
    (tiers : Tiers ExpiringTexts) : Prop where
  near : ∀ entry, tiers.near.get? w.key = some entry →
    Cache.isUsable now maxAge entry = true → Answers (report (codec.decode entry.text))
  durable : ∀ text, tiers.durable.text? w.key now = some text →
    Copied text ∧ Answers (report (codec.decode text))
  missing : tiers.durable.text? w.key now = none → Answers (report none)

end Stages

namespace Stage

variable {w} {codec : Codec α} {maxAge : Option Nat} {report : Option α → β}
  {Copied : String → Prop} {Answers : β → Prop} {n : Nat} {p : Program κ ρ β}
  {step : StorageStep} {next : Instant → step.Answer → Program κ ρ β}

/-- A reader has ended, or it accesses a tier next. -/
theorem ended_or_ready (stage : w.Stage codec maxAge report Copied Answers n p) :
    (∃ answer, Answers answer ∧ p = .done answer) ∨
      0 < n ∧ ∃ step next, p = .storage step next := by
  cases stage with
  | looking =>
    rw [looking_eq]
    exact .inr ⟨by decide, _, _, rfl⟩
  | fetching =>
    rw [fetching_eq]
    exact .inr ⟨by decide, _, _, rfl⟩
  | copying now copied answers => exact .inr ⟨by decide, _, _, rfl⟩
  | writing since copied answers => exact .inr ⟨by decide, _, _, rfl⟩
  | ended answers => exact .inl ⟨_, answers, rfl⟩

/-- A step brings a reader nearer to its end, if the tiers serve it. -/
theorem after_step (stage : w.Stage codec maxAge report Copied Answers n (.storage step next))
    {now : Instant} {tiers : Tiers ExpiringTexts}
    (serves : w.Serves codec maxAge report Copied Answers now tiers) :
    ∃ k < n, w.Stage codec maxAge report Copied Answers k
      (next now (step.perform .memory now tiers).1) := by
  generalize shape : (.storage step next : Program κ ρ β) = p at stage
  cases stage with
  | looking =>
    rw [looking_eq] at shape
    cases shape
    dsimp only [StorageStep.perform]
    rcases present : tiers.near.get? w.key with _ | entry
    · exact ⟨3, by decide, .fetching⟩
    · dsimp only
      split
      · next usable => exact ⟨0, by decide, .ended (serves.near entry present usable)⟩
      · exact ⟨3, by decide, .fetching⟩
  | fetching =>
    rw [fetching_eq] at shape
    cases shape
    dsimp only [StorageStep.perform, Backend.memory]
    rcases found : tiers.durable.text? w.key now with _ | text
    · exact ⟨0, by decide, .ended (serves.missing found)⟩
    · obtain ⟨copied, answers⟩ := serves.durable text found
      dsimp only
      rcases readable : codec.decode text with _ | value
      · rw [readable] at answers
        exact ⟨0, by decide, .ended answers⟩
      · rw [readable] at answers
        exact ⟨2, by decide, .copying now copied answers⟩
  | copying since copied answers =>
    cases shape
    exact ⟨1, by decide, .writing _ copied answers⟩
  | writing since copied answers =>
    cases shape
    exact ⟨0, by decide, .ended answers⟩
  | ended answers => exact nomatch shape

/-- A reader stores nothing under the key but the text that it copies. -/
theorem spares_or_writes
    (stage : w.Stage codec maxAge report Copied Answers n (.storage step next)) :
    step.Spares w.key ∨
      ∃ text since, Copied text ∧ step = .writeNear w.key text (some since) := by
  generalize shape : (.storage step next : Program κ ρ β) = p at stage
  cases stage with
  | looking =>
    rw [looking_eq] at shape
    cases shape
    exact .inl trivial
  | fetching =>
    rw [fetching_eq] at shape
    cases shape
    exact .inl trivial
  | copying since copied answers =>
    cases shape
    exact .inl trivial
  | writing since copied answers =>
    cases shape
    exact .inr ⟨_, _, copied, rfl⟩
  | ended answers => exact nomatch shape

end Stage

/-! ### Steps of readers -/

section Steps

variable {w} {m m' : Machine ExpiringTexts κ ρ β} {event : Machine.Event ρ} {j n : Nat}
  {codec : Codec α} {maxAge : Option Nat} {report : Option α → β} {Copied : String → Prop}
  {Answers : β → Prop} {p : Program κ ρ β}

/-- A reader takes only its own steps, each of which brings it nearer to its end. -/
theorem Stage.of_step? (stage : w.Stage codec maxAge report Copied Answers n p)
    (present : m.threads[j]? = some (.running p))
    (serves : w.Serves codec maxAge report Copied Answers m.now m.tiers)
    (stepped : m.step? .memory event = some m') :
    ∃ k q, m'.threads[j]? = some (.running q) ∧ w.Stage codec maxAge report Copied Answers k q ∧
      k + (if event.isStepOf j then 1 else 0) ≤ n := by
  by_cases own : event.isStepOf j = true
  · obtain rfl := Machine.Event.eq_advance own
    have advanced : m.advance? .memory j = some m' := stepped
    rw [if_pos own]
    obtain ⟨answer, -, rfl⟩ | ⟨-, step, next, rfl⟩ := stage.ended_or_ready
    · rw [Machine.advance?, present] at advanced
      cases advanced
    · obtain ⟨k, fewer, nearer⟩ := stage.after_step serves
      rw [Machine.advance?_of_storage present] at advanced
      obtain rfl := Option.some.inj advanced
      exact ⟨k, _, Machine.getElem?_accessed_self present, nearer, fewer⟩
  · have unmoved : ∀ i, event = .advance i → i ≠ j := by
      rintro i rfl rfl
      exact own (Machine.Event.isStepOf_self i)
    rw [if_neg own]
    exact ⟨n, p, Machine.running_of_step? stepped present unmoved, stage, Nat.le_refl n⟩

end Steps

/-! ### A text that is current in both tiers -/

/-- Whether every reader stands at some stage and copies texts of some kind only. -/
def Staged (Copied : String → Prop) (m : Machine ExpiringTexts κ ρ β) : Prop :=
  ∀ (j : Nat) (α : Type) (codec : Codec α) (maxAge : Option Nat) (report : Option α → β),
    w.visits[j]? = some (.read codec maxAge report) →
    ∃ n p, m.threads[j]? = some (.running p) ∧
      w.Stage codec maxAge report Copied (fun _ => True) n p

/-- A machine in which both tiers have a text, the durable one up to some moment, and no
reader copies another. -/
structure Current (text : String) (deadline : Instant) (m : Machine ExpiringTexts κ ρ β) :
    Prop where
  near : ∃ since, m.tiers.near.get? w.key = some ⟨text, since⟩
  durable : m.tiers.durable.get? w.key = some ⟨text, deadline⟩
  staged : w.Staged (fun copied => copied = text) m

/-- Whether an event stores nothing under the key and does not drop everything, unless it
is a step of a reader. -/
def Spared (m : Machine ExpiringTexts κ ρ β) (event : Machine.Event ρ) : Prop :=
  ∀ i step next, event = .advance i → m.threads[i]? = some (.running (.storage step next)) →
    ¬ w.IsReader i → step.Spares w.key

/-- Whether all events spare the key, one after the other. -/
def Undisturbed (m : Machine ExpiringTexts κ ρ β) : List (Machine.Event ρ) → Prop
  | [] => True
  | event :: rest =>
    w.Spared m event ∧ ∀ m', m.step? .memory event = some m' → Undisturbed m' rest

/-- Where only readers take steps nothing disturbs them. -/
theorem undisturbed_of_isReader {events : List (Machine.Event ρ)}
    (readers : ∀ i, .advance i ∈ events → w.IsReader i) (m : Machine ExpiringTexts κ ρ β) :
    w.Undisturbed m events := by
  induction events generalizing m with
  | nil => trivial
  | cons event rest ih =>
    refine ⟨?_, fun m' _ => ih (fun i member => readers i (List.mem_cons_of_mem event member)) m'⟩
    rintro i step next rfl - other
    exact absurd (readers i List.mem_cons_self) other

section Invariants

variable {w} {m m' : Machine ExpiringTexts κ ρ β} {event : Machine.Event ρ}
  {Copied : String → Prop} {text : String} {deadline : Instant}

/-- Readers stay at their stages, if what they find may be copied. -/
theorem Staged.step (staged : w.Staged Copied m)
    (found : ∀ text, m.tiers.durable.text? w.key m.now = some text → Copied text)
    (stepped : m.step? .memory event = some m') : w.Staged Copied m' := by
  intro j α codec maxAge report reads
  obtain ⟨n, p, present, stage⟩ := staged j α codec maxAge report reads
  have serves : w.Serves codec maxAge report Copied (fun _ => True) m.now m.tiers :=
    ⟨fun _ _ _ => trivial, fun text seen => ⟨found text seen, trivial⟩, fun _ => trivial⟩
  obtain ⟨k, q, present, nearer, -⟩ := stage.of_step? present serves stepped
  exact ⟨k, q, present, nearer⟩

namespace Current

/-- What is seen in the durable tier is the text. -/
theorem eq_of_text? (current : w.Current text deadline m) {other : String}
    (seen : m.tiers.durable.text? w.key m.now = some other) : other = text := by
  obtain ⟨e, found, rfl⟩ := Option.map_eq_some_iff.mp seen
  have stored := current.durable
  rw [ExpiringTexts.get?_of_find? found] at stored
  exact congrArg Expiring.text (Option.some.inj stored)

/-- Up to the deadline it is seen. -/
theorem text?_eq_some (current : w.Current text deadline m) (young : m.now < deadline) :
    m.tiers.durable.text? w.key m.now = some text := by
  rw [ExpiringTexts.text?, ExpiringTexts.find?, current.durable, Option.filter_some,
    if_pos (decide_eq_true young)]
  rfl

/-- A step that spares the key, or is one of a reader, keeps a text current. -/
theorem step (current : w.Current text deadline m) (spared : w.Spared m event)
    (stepped : m.step? .memory event = some m') : w.Current text deadline m' := by
  have staged : w.Staged (fun copied => copied = text) m' :=
    current.staged.step (fun other seen => current.eq_of_text? seen) stepped
  obtain ⟨since, near⟩ := current.near
  obtain same | ⟨i, step, next, moves, ready, performed⟩ := Machine.tiers_of_step? stepped
  · exact ⟨by rw [same]; exact current.near, by rw [same]; exact current.durable, staged⟩
  · have accessed : step.Spares w.key ∨
        ∃ since, step = .writeNear w.key text (some since) := by
      by_cases reader : w.IsReader i
      · obtain ⟨α, codec, maxAge, report, reads⟩ := reader
        obtain ⟨n, p, present, stage⟩ := current.staged i α codec maxAge report reads
        obtain rfl := Thread.running.inj (Option.some.inj (present.symm.trans ready))
        obtain spares | ⟨copied, since, rfl, same⟩ := stage.spares_or_writes
        · exact .inl spares
        · exact .inr ⟨since, same⟩
      · exact .inl (spared i step next moves ready reader)
    rcases accessed with spares | ⟨since, rfl⟩
    · obtain ⟨nears, durables⟩ := spares.get?_perform m.now m.tiers
      rw [← performed] at nears durables
      exact ⟨⟨_, nears.trans near⟩, durables.trans current.durable, staged⟩
    · refine ⟨⟨since, ?_⟩, ?_, staged⟩
      · rw [performed]
        exact Keyed.get?_insert_self _ _ _
      · rw [performed]
        exact current.durable

/-- A text stays current as long as the key is spared. -/
theorem of_runEvents? (current : w.Current text deadline m) {events : List (Machine.Event ρ)}
    (ran : m.runEvents? .memory events = some m') (calm : w.Undisturbed m events) :
    w.Current text deadline m' := by
  induction events generalizing m with
  | nil =>
    obtain rfl := Option.some.inj ran
    exact current
  | cons event rest ih =>
    rw [Machine.runEvents?_cons, Option.bind_eq_some_iff] at ran
    obtain ⟨n, stepped, later⟩ := ran
    exact ih (current.step calm.1 stepped) later (calm.2 n stepped)

/-- Before the deadline a reader finds the text wherever it looks. -/
theorem serves {α : Type} {codec : Codec α} {value : α} (current : w.Current text deadline m)
    (readable : codec.decode text = some value) (young : m.now < deadline) (maxAge : Option Nat)
    (report : Option α → β) :
    w.Serves codec maxAge report (fun copied => copied = text)
      (fun answer => answer = report (some value)) m.now m.tiers where
  near entry present _ := by
    obtain ⟨since, near⟩ := current.near
    obtain rfl := Option.some.inj (near.symm.trans present)
    rw [readable]
  durable other seen := by
    obtain rfl := current.eq_of_text? seen
    exact ⟨rfl, congrArg report readable⟩
  missing unseen := nomatch unseen.symm.trans (current.text?_eq_some young)

/-- A reader whose steps are taken before the deadline ends with a current text, and does
not take more steps than its stage allows. -/
theorem reader_of_runEvents? {α : Type} {codec : Codec α} {maxAge : Option Nat}
    {report : Option α → β} {value : α} (current : w.Current text deadline m)
    (readable : codec.decode text = some value) {j n : Nat} {p : Program κ ρ β}
    (present : m.threads[j]? = some (.running p))
    (stage : w.Stage codec maxAge report (fun copied => copied = text)
      (fun answer => answer = report (some value)) n p)
    {events : List (Machine.Event ρ)} (ran : m.runEvents? .memory events = some m')
    (calm : w.Undisturbed m events) (young : m'.now < deadline) :
    m'.threads[j]? = some (.running (.done (report (some value)))) ∨
      Machine.stepsOf j events < n ∧ (m'.advance? .memory j).isSome = true := by
  induction events generalizing m n p with
  | nil =>
    obtain rfl := Option.some.inj ran
    obtain ⟨answer, rfl, rfl⟩ | ⟨ahead, step, next, rfl⟩ := stage.ended_or_ready
    · exact .inl present
    · rw [Machine.advance?_of_storage present]
      exact .inr ⟨ahead, rfl⟩
  | cons event rest ih =>
    have early : m.now < deadline := Int.lt_of_le_of_lt (Machine.now_le_of_runEvents? ran) young
    rw [Machine.runEvents?_cons, Option.bind_eq_some_iff] at ran
    obtain ⟨m₁, stepped, later⟩ := ran
    obtain ⟨k, q, present₁, nearer, bound⟩ :=
      stage.of_step? present (current.serves readable early maxAge report) stepped
    obtain ended | ⟨fewer, ready⟩ :=
      ih (current.step calm.1 stepped) present₁ nearer later (calm.2 m₁ stepped)
    · exact .inl ended
    · refine .inr ⟨Nat.lt_of_lt_of_le ?_ bound, ready⟩
      rw [Machine.stepsOf, List.countP_cons]
      exact Nat.add_lt_add_right fewer _

end Current

end Invariants

/-! ### Storing while others read -/

/-- The program of a visit. -/
def program : Visit κ ρ β → Program κ ρ β
  | .read codec maxAge report => w.looking codec maxAge report
  | .other p => p

/-- The machine before anything has happened, with any contents of the tiers. -/
def start (now : Instant) (tiers : Tiers ExpiringTexts) : Machine ExpiringTexts κ ρ β :=
  .start now tiers (w.visits.map w.program)

/-- Whether a program has still to copy a text that was read in the durable tier. -/
def Copies (text : String) (p : Program κ ρ β) : Prop :=
  (∃ now answer, p = w.copying text now answer) ∨ ∃ since answer, p = w.writing text since answer

section Storing

variable {w} {now : Instant} {tiers : Tiers ExpiringTexts} {m : Machine ExpiringTexts κ ρ β}

/-- A thread that has not begun is about to run its program. -/
theorem getElem?_start {j : Nat} {visit : Visit κ ρ β} (visits : w.visits[j]? = some visit) :
    (w.start now tiers).threads[j]? = some (.running (w.program visit)) := by
  change ((w.visits.map w.program).map Thread.running)[j]? = _
  rw [List.getElem?_map, List.getElem?_map, visits]
  rfl

/-- Along every run each reader stands at some stage. -/
theorem staged_of_runEvents? {events : List (Machine.Event ρ)}
    (ran : (w.start now tiers).runEvents? .memory events = some m) :
    w.Staged (fun _ => True) m := by
  have begun : w.Staged (fun _ => True) (w.start now tiers) :=
    fun j α codec maxAge report reads => ⟨4, _, getElem?_start reads, .looking⟩
  exact Machine.invariant_of_runEvents? ran begun
    fun n n' event _ _ staged stepped => staged.step (fun _ _ => trivial) stepped

/-- A reader that copies no text of another kind stands at its stage for the kind. -/
theorem Stage.of_copies {α : Type} {codec : Codec α} {maxAge : Option Nat}
    {report : Option α → β} {Copied Wanted : String → Prop} {Answers : β → Prop} {n : Nat}
    {p : Program κ ρ β} (stage : w.Stage codec maxAge report Copied Answers n p)
    (wanted : ∀ text, w.Copies text p → Wanted text) :
    w.Stage codec maxAge report Wanted Answers n p := by
  cases stage with
  | looking => exact .looking
  | fetching => exact .fetching
  | copying now copied answers => exact .copying now (wanted _ (.inl ⟨now, _, rfl⟩)) answers
  | writing since copied answers => exact .writing since (wanted _ (.inr ⟨since, _, rfl⟩)) answers
  | ended answers => exact .ended answers

/-- A call that stores a value stores its text in the near tier with its first step, and
stands before its second step then. -/
theorem storing_of_runEvents? {α : Type} {codec : Codec α} {value : α} {text : String}
    {result : Ending (Except CacheError Unit) → β} {i : Nat}
    (sets : w.visits[i]? = some (.other (w.setting codec value result)))
    (written : codec.encode value = .ok text) {before waiting : List (Machine.Event ρ)}
    (unmoved : .advance i ∉ before) (waits : .advance i ∉ waiting)
    (ran : (w.start now tiers).runEvents? .memory (before ++ .advance i :: waiting) = some m) :
    m.threads[i]? = some (.running (w.storing text result)) := by
  rw [Machine.runEvents?_append, Option.bind_eq_some_iff] at ran
  obtain ⟨setting, ran, moving⟩ := ran
  rw [Machine.runEvents?_cons, Option.bind_eq_some_iff] at moving
  obtain ⟨near, advanced, waited⟩ := moving
  have begun : (w.start now tiers).threads[i]? = some (.running (w.setting codec value result)) :=
    getElem?_start sets
  rw [w.setting_eq codec written result] at begun
  have ready := Machine.running_of_runEvents? ran begun unmoved
  have advanced : setting.advance? .memory i = some near := advanced
  rw [Machine.advance?_of_storage ready] at advanced
  obtain rfl := Option.some.inj advanced
  exact Machine.running_of_runEvents? waited (Machine.getElem?_accessed_self ready) waits

/-- With its second step the text becomes current, unless the near tier has lost it, a
reader has still to copy another, or the end of its lifetime cannot be named. -/
theorem current_of_advance? {text : String} {result : Ending (Except CacheError Unit) → β}
    {i : Nat} {stored : Machine ExpiringTexts κ ρ β} (staged : w.Staged (fun _ => True) m)
    (alone : ¬ w.IsReader i) (namable : m.now + w.lifetime < Instant.limit)
    (ready : m.threads[i]? = some (.running (w.storing text result)))
    (own : ∃ since, m.tiers.near.get? w.key = some ⟨text, since⟩)
    (latest : ∀ j p other, w.IsReader j → m.threads[j]? = some (.running p) →
      w.Copies other p → other = text)
    (advanced : m.advance? .memory i = some stored) :
    w.Current text (m.now + w.lifetime) stored := by
  rw [Machine.advance?_of_storage ready] at advanced
  obtain rfl := Option.some.inj advanced
  have kept : (Backend.memory.set w.key text w.lifetime m.now m.tiers.durable).2 =
      m.tiers.durable.store w.key text (m.now + w.lifetime) :=
    congrArg Prod.snd (Backend.set_memory_of_lt namable)
  refine ⟨own, (congrArg (Keyed.get? · w.key) kept).trans (Keyed.get?_insert_self _ _ _),
    fun j α codec maxAge report reads => ?_⟩
  have reader : w.IsReader j := ⟨α, codec, maxAge, report, reads⟩
  have other : j ≠ i := by
    rintro rfl
    exact alone reader
  obtain ⟨n, p, present, stage⟩ := staged j α codec maxAge report reads
  exact ⟨n, p, (Machine.getElem?_accessed_of_ne other).trans present,
    stage.of_copies fun text copies => latest j p text reader present copies⟩

/-- A call stores a value in a slot while any number of others read the slot, over a
durable tier in memory with any contents at first and in any order of steps.  Suppose that,
when the call stores in the durable tier, the near tier still has its text and no reader has
still to copy another one.  If the end of the lifetime can be named then, the call succeeds,
and every reader that begins after it, and whose codec reads the text, ends with that value
after at most four steps, provided that they are taken while the value is young and that
meanwhile no other call stores in the slot or empties the durable tier.  If it cannot be
named, the call is broken off. -/
theorem reader_after_setting {α : Type} (w : Traffic κ ρ β) (now : Instant)
    (tiers : Tiers ExpiringTexts) (codec : Codec α) (value : α) (text : String)
    (result : Ending (Except CacheError Unit) → β) (i : Nat)
    (sets : w.visits[i]? = some (.other (w.setting codec value result)))
    (written : codec.encode value = .ok text) (before waiting : List (Machine.Event ρ))
    (unmoved : .advance i ∉ before) (waits : .advance i ∉ waiting)
    (ready stored : Machine ExpiringTexts κ ρ β)
    (ran : (w.start now tiers).runEvents? .memory (before ++ .advance i :: waiting) = some ready)
    (own : ∃ since, ready.tiers.near.get? w.key = some ⟨text, since⟩)
    (latest : ∀ j p other, w.IsReader j → ready.threads[j]? = some (.running p) →
      w.Copies other p → other = text)
    (advanced : ready.advance? .memory i = some stored) :
    (Instant.limit ≤ ready.now + w.lifetime →
      stored.threads[i]? = some (.running (.done (result .broken)))) ∧
    (ready.now + w.lifetime < Instant.limit →
      stored.threads[i]? = some (.running (.done (result (.value (.ok ()))))) ∧
      ∀ after begun, stored.runEvents? .memory after = some begun → w.Undisturbed stored after →
        ∀ (j : Nat) (γ : Type) (reader : Codec γ) (maxAge : Option Nat) (report : Option γ → β)
          (v : γ), begun.threads[j]? = some (.running (w.looking reader maxAge report)) →
          reader.decode text = some v →
          ∀ later final, begun.runEvents? .memory later = some final →
            w.Undisturbed begun later → final.now < ready.now + w.lifetime →
            final.threads[j]? = some (.running (.done (report (some v)))) ∨
              Machine.stepsOf j later < 4 ∧ (final.advance? .memory j).isSome = true) := by
  have storing := storing_of_runEvents? sets written unmoved waits ran
  have ended : stored.threads[i]? = some (.running (.done (result
      ((Backend.memory.set w.key text w.lifetime ready.now ready.tiers.durable).1.map
        fun _ => .ok ())))) := by
    rw [Machine.advance?_of_storage storing] at advanced
    obtain rfl := Option.some.inj advanced
    exact Machine.getElem?_accessed_self storing
  constructor
  · intro beyond
    rwa [Backend.set_memory_of_le beyond] at ended
  · intro namable
    rw [Backend.set_memory_of_lt namable] at ended
    have alone : ¬ w.IsReader i := by
      rintro ⟨γ, reader, maxAge, report, reads⟩
      exact nomatch reads.symm.trans sets
    have current := current_of_advance? (staged_of_runEvents? ran) alone namable storing own latest
      advanced
    refine ⟨ended, ?_⟩
    intro after begun followed calm j γ reader maxAge report v looks readable later final read
      quiet young
    exact (current.of_runEvents? followed calm).reader_of_runEvents? readable looks .looking read
      quiet young

end Storing

/-- A call that stores a text in a slot, and two that read texts there.  They report how the
first ended and what the others read. -/
def ofOneStore : Traffic Unit Unit (Ending (Except CacheError Unit) ⊕ Option String) where
  config := .standard
  slot := ⟨.economics, none⟩
  visits :=
    [.other ((Cache.set .standard ⟨.ok, some⟩ ⟨.economics, none⟩ "new").bind fun answer =>
        .done (.inl answer)),
      .read ⟨.ok, some⟩ (some (Duration.seconds 600)) .inr,
      .read ⟨.ok, some⟩ (some (Duration.seconds 600)) .inr]

/-- Tiers in which an older text has one more second to live. -/
def olderTiers : Tiers ExpiringTexts :=
  ⟨.empty, ExpiringTexts.store .empty "txnscope:economics" "old" (Duration.seconds 1)⟩

/-- The first reader is under way while the text is stored, and finds the new one.  The
second reader begins a second later and ends with it, too. -/
theorem reader_after_setting_of_second :
    ∃ ready stored begun final,
      (ofOneStore.start 0 olderTiers).runEvents? .memory
        [.advance 1, .advance 0, .pass 5] = some ready ∧
      ready.advance? .memory 0 = some stored ∧
      stored.threads[0]? = some (.running (.done (.inl (.value (.ok ()))))) ∧
      stored.runEvents? .memory
        [.advance 1, .advance 1, .advance 1, .pass (Duration.seconds 1)] = some begun ∧
      begun.runEvents? .memory [.advance 2] = some final ∧
      final.threads[2]? = some (.running (.done (.inr (some "new")))) := by
  have running : ((ofOneStore.start 0 olderTiers).runEvents? .memory
    [.advance 1, .advance 0, .pass 5]).isSome = true := rfl
  have stores : ((Option.get _ running).advance? .memory 0).isSome = true := rfl
  have follows : ((Option.get _ stores).runEvents? .memory
    [.advance 1, .advance 1, .advance 1, .pass (Duration.seconds 1)]).isSome = true := rfl
  have reads : ((Option.get _ follows).runEvents? .memory [.advance 2]).isSome = true := rfl
  have first : ofOneStore.IsReader 1 := ⟨_, _, _, _, rfl⟩
  have second : ofOneStore.IsReader 2 := ⟨_, _, _, _, rfl⟩
  have namable : ((5 + Duration.seconds 600 : Nat) : Int) < Instant.limit := by decide
  have young : ((5 + Duration.seconds 1 : Nat) : Int) < (5 + Duration.seconds 600 : Nat) := by
    decide
  have latest : ∀ j p other, ofOneStore.IsReader j →
      (Option.get _ running).threads[j]? = some (.running p) →
      ofOneStore.Copies other p → other = "new" := by
    -- one reader asks the durable tier next, and the other has not begun
    intro j p other reader present copies
    rcases j with _ | _ | _ | j
    · obtain ⟨γ, codec, maxAge, report, reads⟩ := reader
      exact nomatch reads
    · obtain rfl := Thread.running.inj (Option.some.inj present)
      rcases copies with ⟨now, answer, same⟩ | ⟨since, answer, same⟩ <;> exact nomatch same
    · obtain rfl := Thread.running.inj (Option.some.inj present)
      rcases copies with ⟨now, answer, same⟩ | ⟨since, answer, same⟩ <;> exact nomatch same
    · exact nomatch present
  obtain ⟨ended, answers⟩ := (ofOneStore.reader_after_setting 0 olderTiers ⟨.ok, some⟩ "new" "new"
    .inl 0 rfl rfl [.advance 1] [.pass 5] (by simp) (by simp) _ _ (Option.some_get running).symm
    ⟨0, rfl⟩ latest (Option.some_get stores).symm).2 namable
  have answer := answers _ _ (Option.some_get follows).symm
    (ofOneStore.undisturbed_of_isReader (by simp [first]) _) 2 String ⟨.ok, some⟩ _ .inr "new" rfl
    rfl _ _ (Option.some_get reads).symm (ofOneStore.undisturbed_of_isReader (by simp [second]) _)
    young
  refine ⟨_, _, _, _, (Option.some_get running).symm, (Option.some_get stores).symm, ended,
    (Option.some_get follows).symm, (Option.some_get reads).symm, ?_⟩
  rcases answer with found | ⟨-, more⟩
  · exact found
  · exact nomatch more

/-- Where the conditions are not met, readers that begin after a value was stored may find
something else while it is young.  A codec of another type reads nothing.  A reader that
finds the near entry too old, since an earlier reader was slow to copy it, reads nothing
if it is slow itself.  And a reader that has still to copy an older text makes all others
find that text for a whole lifetime. -/
theorem not_read_after_setting :
    (∃ after : Session Slot ExpiringTexts,
      (Cache.set .standard Codec.documents ⟨.economics, none⟩ (.text "text")).run .memory
        (.instant ()) ⟨0, ⟨.empty, .empty⟩, []⟩ = (.value (.ok ()), after) ∧
      after.now = 0 ∧
      after.get? .standard .memory Codec.word32 ⟨.economics, none⟩ = none) ∧
    (∃ stored begun final,
      (ofOneStore.start 0 olderTiers).runEvents? .memory
        [.advance 1, .advance 0, .advance 0] = some stored ∧
      stored.threads[0]? = some (.running (.done (.inl (.value (.ok ()))))) ∧
      stored.runEvents? .memory [.advance 1, .pass (Duration.seconds 300), .advance 1, .advance 1,
        .pass (Duration.seconds 100)] = some begun ∧
      begun.threads[2]? =
        some (.running (ofOneStore.looking ⟨.ok, some⟩ (some (Duration.seconds 600)) .inr)) ∧
      begun.now < stored.now + ofOneStore.lifetime ∧
      begun.runEvents? .memory [.advance 2, .pass (Duration.seconds 200), .advance 2] =
        some final ∧
      final.threads[2]? = some (.running (.done (.inr none)))) ∧
    ∃ stored begun final,
      (ofOneStore.start 0 olderTiers).runEvents? .memory
        [.advance 1, .advance 1, .advance 0, .advance 0] = some stored ∧
      stored.threads[0]? = some (.running (.done (.inl (.value (.ok ()))))) ∧
      stored.runEvents? .memory [.advance 1, .advance 1, .pass (Duration.seconds 600 - 1)] =
        some begun ∧
      begun.threads[2]? =
        some (.running (ofOneStore.looking ⟨.ok, some⟩ (some (Duration.seconds 600)) .inr)) ∧
      begun.now < stored.now + ofOneStore.lifetime ∧
      begun.runEvents? .memory [.advance 2] = some final ∧
      final.threads[2]? = some (.running (.done (.inr (some "old")))) := by
  have middle : ((Duration.seconds 400 : Nat) : Int) < (Duration.seconds 600 : Nat) := by decide
  have last : ((Duration.seconds 600 - 1 : Nat) : Int) < (Duration.seconds 600 : Nat) := by decide
  refine ⟨⟨_, rfl, rfl, by decide +kernel⟩, ?_, ?_⟩
  · exact ⟨_, _, _, rfl, rfl, rfl, rfl, middle, rfl, rfl⟩
  · exact ⟨_, _, _, rfl, rfl, rfl, rfl, last, rfl, rfl⟩

end Traffic

end ChainActivity
