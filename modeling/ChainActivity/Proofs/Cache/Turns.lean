import ChainActivity.Proofs.Cache.Moves
import ChainActivity.Proofs.Cache.Threads

/-!
# Locks that are taken in turn

Programs of any kind are under way together.  Each takes one lock at a time and gives back
what it took.  Then every lock is held by the head of its line, and by nobody else.

## Main definitions

* `Program.LocksInTurn` — whether a program takes locks one after the other.
* `Machine.Stands` — where a thread can stand, by its places in the lines.
* `Machine.InTurn` — the invariant of the machine.

## Main statements

* `Program.LocksInTurn.bind` — programs that leave locks alone may come first.
* `Cache.locksInTurn_getOrProduce`, … — the calls of the cache take locks in turn.
* `Machine.InTurn.step`, `Machine.inTurn_of_runEvents?` — the invariant holds along every
  run.
* `Machine.InTurn.holds_of_release`, `Machine.InTurn.absent_of_done` — who gives a lock back
  has it, and who has ended wants none.
* `Machine.advance_mem_of_mem_lines` — who wants a lock has taken a step.

## Design notes

A thread is in at most one line, for it takes no lock while it has one.  So what a step does
to the line of one lock leaves the threads in the other lines where they are.
-/

namespace ChainActivity

/-! ### Programs -/

namespace Program

variable {κ ρ α β : Type}

/-- Whether a program that has some lock, or none, takes locks one after the other: it gives
back what it has before it takes another, and has none at the end. -/
def LocksInTurn : Option Domain → Program κ ρ α → Prop
  | held, .done _ => held = none
  | held, .storage _ next => ∀ now answer, (next now answer).LocksInTurn held
  | held, .acquire domain next => held = none ∧ next.LocksInTurn (some domain)
  | held, .release domain next => held = some domain ∧ next.LocksInTurn none
  | held, .produce _ next => ∀ reply, (next reply).LocksInTurn held

end Program

/-- The moves that take no lock and give none back. -/
def Move.LeavesLocks {κ : Type} : Move κ → Prop
  | acquire _ | release _ => False
  | access _ | ask _ => True

namespace Program

variable {κ ρ α β : Type}

/-- A program that leaves locks alone may come before another. -/
theorem LocksInTurn.bind {held : Option Domain} {p : Program κ ρ α} {f : α → Program κ ρ β}
    (first : p.Only Move.LeavesLocks) (second : ∀ a, (f a).LocksInTurn held) :
    (p.bind f).LocksInTurn held := by
  induction p with
  | done a => exact second a
  | storage step next ih => exact fun now answer => ih now answer (first.2 now answer)
  | acquire domain next ih => exact absurd first.1 id
  | release domain next ih => exact absurd first.1 id
  | produce request next ih => exact fun reply => ih reply (first.2 reply)

/-- A program that leaves locks alone takes them in turn. -/
theorem locksInTurn_of_only {p : Program κ ρ α} (only : p.Only Move.LeavesLocks) :
    p.LocksInTurn none := by
  rw [← p.bind_done]
  exact .bind only fun _ => rfl

end Program

namespace Cache

variable {κ ρ ε α : Type} (config : CacheConfig) (codec : Codec α) (slot : Slot)

theorem locksInTurn_lookup (maxAge : Option Nat) :
    (lookup config codec slot maxAge : Program κ ρ (Option α)).LocksInTurn none :=
  Program.locksInTurn_of_only (only_lookup (fun _ _ => trivial) codec maxAge)

theorem locksInTurn_set (value : α) :
    (set config codec slot value :
      Program κ ρ (Ending (Except CacheError Unit))).LocksInTurn none :=
  Program.locksInTurn_of_only (only_set (fun _ _ => trivial) codec value)

theorem locksInTurn_clear : (clear : Program κ ρ (Except CacheError Unit)).LocksInTurn none :=
  fun _ _ => rfl

/-- In an exclusive domain the lock that is taken is given back at the end. -/
theorem locksInTurn_getOrProduce (request : κ) :
    (getOrProduce config codec slot request :
      Program κ (Except ε α) (Ending (Except ε α))).LocksInTurn none := by
  have leaves : (produceIfMissing config codec slot request :
      Program κ (Except ε α) (Ending (Except ε α))).Only Move.LeavesLocks :=
    only_produceIfMissing (fun _ _ => trivial) codec trivial
  by_cases exclusive : config.isExclusive slot.domain = true
  · rw [getOrProduce_of_exclusive config codec slot exclusive]
    exact ⟨rfl, .bind leaves fun result => ⟨rfl, rfl⟩⟩
  · rw [getOrProduce, if_neg exclusive]
    exact Program.locksInTurn_of_only leaves

end Cache

/-! ### Threads -/

/-- Whether a thread does not wait, and a program with some property is what it goes on
with, whatever a producer that is at work replies. -/
def Thread.Awake {κ ρ α : Type} (P : Program κ ρ α → Prop) : Thread κ ρ α → Prop
  | running p => P p
  | waiting _ => False
  | producing _ next => ∀ reply, P (next reply)

namespace Machine

variable {σ κ ρ α : Type}

/-- Where a thread can stand: in no line, at the head of one, with its lock, or behind the
head of one, where it waits. -/
inductive Stands (lines : Domain → List Nat) (i : Nat) : Thread κ ρ α → Prop where
  | outside {t : Thread κ ρ α} (absent : ∀ d, i ∉ lines d)
      (free : t.Awake (Program.LocksInTurn none)) : Stands lines i t
  | first {t : Thread κ ρ α} (domain : Domain) (head : (lines domain).head? = some i)
      (only : ∀ d, i ∈ lines d → d = domain)
      (holds : t.Awake (Program.LocksInTurn (some domain))) : Stands lines i t
  | behind {p : Program κ ρ α} (domain : Domain) (later : i ∈ (lines domain).tail)
      (only : ∀ d, i ∈ lines d → d = domain)
      (onward : p.LocksInTurn (some domain)) : Stands lines i (.waiting p)

/-- A machine in whose lines nobody stands twice, and every thread stands where it can. -/
structure InTurn (m : Machine σ κ ρ α) : Prop where
  nodup : ∀ d, (m.lines d).Nodup
  stands : ∀ (i : Nat) (t : Thread κ ρ α), m.threads[i]? = some t → Stands m.lines i t

namespace Stands

variable {lines lines' : Domain → List Nat} {i j : Nat} {t t' : Thread κ ρ α} {domain : Domain}

/-- A thread that does not wait may change, if it takes and gives back no lock. -/
theorem update (stands : Stands lines i t)
    (awake : ∀ held, t.Awake (Program.LocksInTurn held) → t'.Awake (Program.LocksInTurn held))
    (running : ∀ p, t ≠ .waiting p) : Stands lines i t' := by
  cases stands with
  | outside absent free => exact .outside absent (awake none free)
  | first domain head only holds => exact .first domain head only (awake (some domain) holds)
  | behind domain later only onward => exact absurd rfl (running _)

/-- Somebody else may join a line. -/
theorem append (stands : Stands lines j t) (other : j ≠ i)
    (same : ∀ d, lines' d = lines d ∨ lines' d = lines d ++ [i]) : Stands lines' j t := by
  have member : ∀ d, j ∈ lines' d → j ∈ lines d := by
    intro d member
    rcases same d with line | line
    · exact line ▸ member
    · rw [line, List.mem_append, List.mem_singleton] at member
      exact member.resolve_right other
  cases stands with
  | outside absent free => exact .outside (fun d present => absent d (member d present)) free
  | first domain head only holds =>
    refine .first domain ?_ (fun d present => only d (member d present)) holds
    rcases same domain with line | line
    · rw [line, head]
    · rw [line, List.head?_append, head, Option.some_or]
  | behind domain later only onward =>
    refine .behind domain ?_ (fun d present => only d (member d present)) onward
    rcases same domain with line | line
    · rw [line]
      exact later
    · obtain ⟨head, tail, split⟩ := List.exists_cons_of_ne_nil
        (List.ne_nil_of_mem (List.mem_of_mem_tail later))
      rw [split, List.tail_cons] at later
      rw [line, split, List.cons_append, List.tail_cons]
      exact List.mem_append_left [i] later

/-- Who takes a lock has none and is in no line. -/
theorem acquire {next : Program κ ρ α} (stands : Stands lines i (.running (.acquire domain next))) :
    (∀ d, i ∉ lines d) ∧ next.LocksInTurn (some domain) := by
  cases stands with
  | outside absent free => exact ⟨absent, free.2⟩
  | first held head only holds => exact nomatch holds.1

/-- Who gives a lock back has it, and is in no other line. -/
theorem release {next : Program κ ρ α} (stands : Stands lines i (.running (.release domain next))) :
    (lines domain).head? = some i ∧ (∀ d, i ∈ lines d → d = domain) ∧ next.LocksInTurn none := by
  cases stands with
  | outside absent free => exact nomatch free.1
  | first held head only holds =>
    obtain rfl := Option.some.inj holds.1
    exact ⟨head, only, holds.2⟩

/-- Somebody else may leave the head of a line; the next one is then woken. -/
theorem drop (stands : Stands lines j t) (other : j ≠ i) {rest : List Nat}
    (line : lines domain = i :: rest) (dropped : lines' domain = rest)
    (same : ∀ d, d ≠ domain → lines' d = lines d) :
    Stands lines' j (if rest.head? = some j then woken t else t) := by
  have member : ∀ d, j ∈ lines' d → j ∈ lines d := by
    intro d member
    by_cases own : d = domain
    · subst own
      rw [dropped] at member
      exact line ▸ List.mem_cons_of_mem i member
    · exact same d own ▸ member
  have woken_member : rest.head? = some j → j ∈ lines domain := fun next =>
    line ▸ List.mem_cons_of_mem i (List.mem_of_mem_head? next)
  cases stands with
  | outside absent free =>
    rw [if_neg fun next => absent domain (woken_member next)]
    exact .outside (fun d present => absent d (member d present)) free
  | first held head only holds =>
    have apart : held ≠ domain := by
      rintro rfl
      rw [line] at head
      exact other (Option.some.inj head).symm
    rw [if_neg fun next => apart (only domain (woken_member next)).symm]
    exact .first held (same held apart ▸ head) (fun d present => only d (member d present)) holds
  | behind held later only onward =>
    by_cases next : rest.head? = some j
    · -- it is the head of the line now, and goes on with the lock
      rw [if_pos next]
      obtain rfl := only domain (woken_member next)
      exact .first domain (dropped ▸ next) (fun d present => only d (member d present)) onward
    · rw [if_neg next]
      refine .behind held ?_ (fun d present => only d (member d present)) onward
      by_cases own : held = domain
      · subst own
        rw [line, List.tail_cons] at later
        obtain ⟨head, tail, split⟩ := List.exists_cons_of_ne_nil (List.ne_nil_of_mem later)
        rw [dropped, split, List.tail_cons]
        rw [split] at later next
        refine (List.mem_cons.mp later).resolve_left ?_
        rintro rfl
        exact next rfl
      · exact same held own ▸ later

end Stands

/-! ### The invariant -/

namespace InTurn

variable {backend : Backend σ} {m m' : Machine σ κ ρ α} {i j : Nat} {domain : Domain}
  {old t : Thread κ ρ α}

/-- One thread may change, if it takes and gives back no lock, and so may everything but the
lines. -/
theorem update (inTurn : m.InTurn) (present : m.threads[i]? = some old)
    (lines : m'.lines = m.lines) (threads : m'.threads = m.threads.set i t)
    (stands : Stands m.lines i old → Stands m.lines i t) : m'.InTurn where
  nodup := lines ▸ inTurn.nodup
  stands j u found := by
    rw [lines]
    rw [threads] at found
    by_cases same : j = i
    · subst same
      rw [List.getElem?_set_self (List.getElem?_eq_some_iff.mp present).1] at found
      obtain rfl := Option.some.inj found
      exact stands (inTurn.stands j old present)
    · rw [List.getElem?_set_ne (Ne.symm same)] at found
      exact inTurn.stands j u found

/-- A thread that wants a lock stands in its line. -/
theorem queued (inTurn : m.InTurn) {next : Program κ ρ α}
    (ready : m.threads[i]? = some (.running (.acquire domain next))) :
    (m.queued i domain next).InTurn := by
  obtain ⟨absent, onward⟩ := (inTurn.stands i _ ready).acquire
  have own := m.lines_queued_self i domain next
  have same : ∀ d, d ≠ domain → (m.queued i domain next).lines d = m.lines d :=
    fun d other => m.lines_queued_of_ne i domain next other
  constructor
  · intro d
    by_cases here : d = domain
    · subst here
      rw [own, List.nodup_append]
      refine ⟨inTurn.nodup d, List.nodup_cons.mpr ⟨List.not_mem_nil, List.nodup_nil⟩, ?_⟩
      rintro k earlier _ last rfl
      exact absent d (List.mem_singleton.mp last ▸ earlier)
    · exact same d here ▸ inTurn.nodup d
  · intro j t found
    by_cases here : j = i
    · subst here
      rw [m.getElem?_queued_self j domain next ready] at found
      obtain rfl := Option.some.inj found
      have only : ∀ d, j ∈ (m.queued j domain next).lines d → d = domain := by
        intro d member
        by_contra other
        exact absent d (same d other ▸ member)
      -- the lock is free exactly if nobody stands in the line
      rcases line : m.lines domain with _ | ⟨head, tail⟩
      · exact .first domain (by rw [own, line]; rfl) only onward
      · refine .behind domain ?_ only onward
        rw [own, line]
        exact List.mem_append_right tail List.mem_cons_self
    · rw [m.getElem?_queued_of_ne i domain next here] at found
      refine (inTurn.stands j t found).append here fun d => ?_
      by_cases at_line : d = domain
      · exact .inr (at_line ▸ own)
      · exact .inl (same d at_line)

/-- A thread that gives a lock back leaves its line, and the next one has the lock. -/
theorem freed (inTurn : m.InTurn) {next : Program κ ρ α}
    (ready : m.threads[i]? = some (.running (.release domain next))) :
    (m.freed i domain next).InTurn := by
  obtain ⟨head, only, onward⟩ := (inTurn.stands i _ ready).release
  obtain ⟨rest, line⟩ : ∃ rest, m.lines domain = i :: rest := List.head?_eq_some_iff.mp head
  have dropped : (m.freed i domain next).lines domain = rest := by
    rw [m.lines_freed_self, line]
    rfl
  have same : ∀ d, d ≠ domain → (m.freed i domain next).lines d = m.lines d :=
    fun d other => m.lines_freed_of_ne i domain next other
  have nodup : i ∉ rest ∧ rest.Nodup := List.nodup_cons.mp (line ▸ inTurn.nodup domain)
  constructor
  · intro d
    by_cases here : d = domain
    · subst here
      exact dropped ▸ nodup.2
    · exact same d here ▸ inTurn.nodup d
  · intro j t found
    by_cases here : j = i
    · subst here
      rw [m.getElem?_freed_self j domain next ready] at found
      obtain rfl := Option.some.inj found
      refine .outside (fun d member => ?_) onward
      by_cases here : d = domain
      · subst here
        exact nodup.1 (dropped ▸ member)
      · exact here (only d (same d here ▸ member))
    · rw [m.getElem?_freed_of_ne i domain next here, line, List.drop_one, List.tail_cons] at found
      obtain ⟨u, present, rfl⟩ : ∃ u, m.threads[j]? = some u ∧
          t = if rest.head? = some j then woken u else u := by
        split at found
        · next woken =>
          obtain ⟨u, present, rfl⟩ := Option.map_eq_some_iff.mp found
          exact ⟨u, present, (if_pos woken).symm⟩
        · next unwoken => exact ⟨t, found, (if_neg unwoken).symm⟩
      exact (inTurn.stands j u present).drop here line dropped same

/-- Every step keeps the invariant. -/
theorem step (inTurn : m.InTurn) {event : Event ρ} (stepped : m.step? backend event = some m') :
    m'.InTurn := by
  cases event with
  | advance i =>
    cases advance_of_advance? (show m.advance? backend i = some m' from stepped) with
    | access ready =>
      exact inTurn.update ready rfl rfl fun stands =>
        stands.update (fun held holds => holds _ _) fun p waits => nomatch waits
    | acquire ready => exact inTurn.queued ready
    | release ready => exact inTurn.freed ready
    | produce ready =>
      exact inTurn.update ready rfl rfl fun stands =>
        stands.update (fun held holds => holds) fun p waits => nomatch waits
  | reply i answer =>
    obtain ⟨request, next, works, rfl⟩ := producing_of_reply? stepped
    exact inTurn.update works rfl rfl fun stands =>
      stands.update (fun held holds => holds answer) fun p waits => nomatch waits
  | pass duration =>
    obtain rfl := Option.some.inj stepped
    exact ⟨inTurn.nodup, inTurn.stands⟩

/-- The head of a line does not wait. -/
theorem not_waiting_of_head (inTurn : m.InTurn) (head : (m.lines domain).head? = some i)
    (p : Program κ ρ α) : m.threads[i]? ≠ some (.waiting p) := by
  intro waits
  cases inTurn.stands i _ waits with
  | outside absent free => exact free
  | first held head only holds => exact holds
  | behind held later only onward =>
    obtain ⟨rest, line⟩ : ∃ rest, m.lines domain = i :: rest := List.head?_eq_some_iff.mp head
    obtain rfl := only domain (line ▸ List.mem_cons_self)
    rw [line, List.tail_cons] at later
    exact (List.nodup_cons.mp (line ▸ inTurn.nodup domain)).1 later

/-- A thread that gives a lock back has it. -/
theorem holds_of_release (inTurn : m.InTurn) {next : Program κ ρ α}
    (ready : m.threads[i]? = some (.running (.release domain next))) :
    (m.lines domain).head? = some i :=
  (inTurn.stands i _ ready).release.1

/-- A thread that has ended is in no line. -/
theorem absent_of_done (inTurn : m.InTurn) {value : α}
    (ended : m.threads[i]? = some (.running (.done value))) (d : Domain) : i ∉ m.lines d := by
  cases inTurn.stands i _ ended with
  | outside absent free => exact absent d
  | first held head only holds => exact nomatch (show some held = none from holds)

end InTurn

/-- Before anything has happened nobody stands in a line. -/
theorem inTurn_start (now : Instant) (tiers : Tiers σ) {programs : List (Program κ ρ α)}
    (locks : ∀ p ∈ programs, p.LocksInTurn none) : (start now tiers programs).InTurn where
  nodup _ := List.nodup_nil
  stands i t present := by
    rw [start, List.getElem?_map, Option.map_eq_some_iff] at present
    obtain ⟨p, programmed, rfl⟩ := present
    exact .outside (fun _ => List.not_mem_nil) (locks p (List.mem_of_getElem? programmed))

/-- Locks are held in turn along every run. -/
theorem inTurn_of_runEvents? {backend : Backend σ} {now : Instant} {tiers : Tiers σ}
    {programs : List (Program κ ρ α)} (locks : ∀ p ∈ programs, p.LocksInTurn none)
    {events : List (Event ρ)} {m : Machine σ κ ρ α}
    (ran : (start now tiers programs).runEvents? backend events = some m) : m.InTurn :=
  invariant_of_runEvents? ran (inTurn_start now tiers locks)
    fun _ _ _ _ _ inTurn stepped => inTurn.step stepped

/-! ### Members of lines -/

section Members

variable {backend : Backend σ} {m m' : Machine σ κ ρ α} {d : Domain} {k : Nat}

/-- Who stands in a line after a step has stood there before, or has taken the step. -/
theorem mem_lines_of_step? {event : Event ρ} (stepped : m.step? backend event = some m')
    (member : k ∈ m'.lines d) : k ∈ m.lines d ∨ event = .advance k := by
  cases event with
  | advance i =>
    cases advance_of_advance? (show m.advance? backend i = some m' from stepped) with
    | access ready => exact .inl member
    | @acquire domain next ready =>
      by_cases here : d = domain
      · subst here
        rw [m.lines_queued_self, List.mem_append, List.mem_singleton] at member
        exact member.imp_right fun same : k = i => congrArg Event.advance same.symm
      · exact .inl (m.lines_queued_of_ne i domain next here ▸ member)
    | @release domain next ready =>
      by_cases here : d = domain
      · subst here
        rw [m.lines_freed_self] at member
        exact .inl (List.mem_of_mem_drop member)
      · exact .inl (m.lines_freed_of_ne i domain next here ▸ member)
    | produce ready => exact .inl member
  | reply i answer =>
    obtain ⟨request, next, -, rfl⟩ := producing_of_reply? stepped
    exact .inl member
  | pass duration =>
    obtain rfl := Option.some.inj stepped
    exact .inl member

/-- Who stands in a line has taken a step. -/
theorem advance_mem_of_mem_lines {now : Instant} {tiers : Tiers σ}
    {programs : List (Program κ ρ α)} {events : List (Event ρ)}
    (ran : (start now tiers programs).runEvents? backend events = some m)
    (member : k ∈ m.lines d) : .advance k ∈ events := by
  have kept : ∀ n n' : Machine σ κ ρ α, ∀ event, event ∈ events → n'.now ≤ m.now →
      (∀ d k, k ∈ n.lines d → .advance k ∈ events) → n.step? backend event = some n' →
      ∀ d k, k ∈ n'.lines d → .advance k ∈ events := by
    intro n n' event among _ earlier stepped d k member
    rcases mem_lines_of_step? stepped member with before | rfl
    · exact earlier d k before
    · exact among
  exact invariant_of_runEvents? ran (fun d k member => nomatch member) kept d k member

end Members

end Machine

end ChainActivity
