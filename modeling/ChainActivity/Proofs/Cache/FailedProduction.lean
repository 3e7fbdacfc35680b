import ChainActivity.Proofs.Cache.Populating
import ChainActivity.Proofs.Cache.Unreliable

/-!
# Calls whose producers fail

A call looks for its value, finds none, and its producer fails.  Whatever the tiers hold and
whatever else is under way, the call ends with the error of its producer, no entry of a tier
is changed by any of its steps, and the next call of the domain can go on.

## Main definitions

* `StorageStep.IsReading` — the accesses that change no entry.
* `Program.IsCautious` — whether a program changes entries only where its producer does not
  fail any more.
* `Machine.Ends` — whether a call is about to end with a result, or has ended.

## Main statements

* `Cache.isCautious_getOrProduce` — a call changes no entry before its producer fails.
* `Machine.not_mem_of_asksNothing` — who asks nothing is not replied to.
* `Machine.ends_of_runEvents?` — a call whose producer fails goes on to end with the error.
* `Machine.entries_of_failed` — none of its steps changes an entry.
* `Cache.failed_production` — such a call leaves no trace.

## Design notes

A call may copy an entry before it asks its producer, namely the one that it finds.  But then
it has a value and asks nobody.  So a step that changes an entry tells that no producer of
the call will fail later; and once one has failed, the call accesses no tier.
-/

namespace ChainActivity

/-! ### Reading -/

/-- The accesses that change no entry of a tier. -/
def StorageStep.IsReading : StorageStep → Prop
  | readNear _ | durableGet _ | durableTtl _ => True
  | writeNear .. | durableSet .. | durableFlush => False

/-- The entries of both tiers, where the durable one counts its calls. -/
def Tiers.entries (tiers : Tiers (ExpiringTexts × Nat)) : Keyed LocalEntry × ExpiringTexts :=
  (tiers.near, tiers.durable.1)

/-- A call that changes nothing is attempted without changing anything but the count. -/
theorem Backend.entries_attempt {σ τ : Type} {call : σ → τ × σ} (keeps : ∀ s, (call s).2 = s)
    (failure : Nat → Option CacheError) (refuse : CacheError → τ) (s : σ × Nat) :
    (attempt failure refuse call s).2.1 = s.1 := by
  rcases attempt_cases failure refuse call s with ⟨e, -, same⟩ | ⟨-, called⟩
  · exact same
  · rw [called, keeps]

/-- Reading changes no entry, whichever calls of the durable tier fail. -/
theorem StorageStep.IsReading.entries_perform {step : StorageStep} (reading : step.IsReading)
    (failures : Option (Nat → Option CacheError)) (now : Instant)
    (tiers : Tiers (ExpiringTexts × Nat)) :
    (step.perform (.ofFailures failures) now tiers).2.entries = tiers.entries := by
  cases step with
  | readNear key => rfl
  | durableGet key =>
    cases failures with
    | none => rfl
    | some failure =>
      exact congrArg (Prod.mk tiers.near) (Backend.entries_attempt (fun _ => rfl) failure _ _)
  | durableTtl key =>
    cases failures with
    | none => rfl
    | some failure =>
      exact congrArg (Prod.mk tiers.near) (Backend.entries_attempt (fun _ => rfl) failure _ _)
  | writeNear key text since => exact absurd reading id
  | durableSet key text lifetime => exact absurd reading id
  | durableFlush => exact absurd reading id

/-! ### Programs -/

/-- The moves other than requests. -/
def Move.AsksNothing {κ : Type} : Move κ → Prop
  | ask _ => False
  | access _ | acquire _ | release _ => True

namespace Program

variable {κ ε α β γ : Type}

/-- Whether a program changes entries only where no producer is asked any more, asks at most
once, and goes on in some way with an error of its producer. -/
def IsCautious (failing : ε → Program κ (Except ε α) β) : Program κ (Except ε α) β → Prop
  | .done _ => True
  | .storage step next =>
    (∀ now answer, (next now answer).IsCautious failing) ∧
      (step.IsReading ∨ ∀ now answer, (next now answer).Only Move.AsksNothing)
  | .acquire _ next | .release _ next => next.IsCautious failing
  | .produce _ next =>
    (∀ e, next (.error e) = failing e) ∧ ∀ reply, (next reply).Only Move.AsksNothing

variable {failing : ε → Program κ (Except ε α) β}

/-- A program that asks nothing may change any entries. -/
theorem isCautious_of_only {p : Program κ (Except ε α) β} (only : p.Only Move.AsksNothing) :
    p.IsCautious failing := by
  induction p with
  | done b => trivial
  | storage step next ih =>
    exact ⟨fun now answer => ih now answer (only.2 now answer), .inr only.2⟩
  | acquire domain next ih => exact ih only.2
  | release domain next ih => exact ih only.2
  | produce request next ih => exact absurd only.1 id

/-- A cautious program may go on with one that asks nothing. -/
theorem IsCautious.bind {p : Program κ (Except ε α) β} {f : β → Program κ (Except ε α) γ}
    (first : p.IsCautious failing) (second : ∀ b, (f b).Only Move.AsksNothing) :
    (p.bind f).IsCautious fun e => (failing e).bind f := by
  induction p with
  | done b => exact isCautious_of_only (second b)
  | storage step next ih =>
    refine ⟨fun now answer => ih now answer (first.1 now answer), first.2.imp_right ?_⟩
    exact fun silent now answer => (silent now answer).bind second
  | acquire domain next ih => exact ih first
  | release domain next ih => exact ih first
  | produce request next ih =>
    exact ⟨fun e => congrArg (fun p => Program.bind p f) (first.1 e),
      fun reply => (first.2 reply).bind second⟩

end Program

/-! ### Calls of the cache -/

namespace Cache

variable {κ ε α : Type} {config : CacheConfig} {codec : Codec α} {slot : Slot}

section Cautious

variable {β : Type} {failing : ε → Program κ (Except ε α) β}
  {f : Option α → Program κ (Except ε α) β}

/-- Asking the durable tier changes no entry if nothing is found. -/
theorem isCautious_fetch_bind (missing : (f none).IsCautious failing)
    (found : ∀ value, (f (some value)).Only Move.AsksNothing) :
    ((fetch config codec slot).bind f).IsCautious failing := by
  unfold fetch
  refine ⟨fun now answer => ?_, .inl trivial⟩
  rcases answer with e | text?
  · exact missing
  · rcases text? with _ | text
    · exact missing
    · dsimp only [Program.bind]
      cases codec.decode text with
      | none => exact missing
      | some value =>
        -- the entry is copied, but then there is a value
        exact Program.isCautious_of_only ⟨trivial, fun _ _ => ⟨trivial, fun _ _ => found value⟩⟩

/-- So does looking into both tiers. -/
theorem isCautious_lookup_bind {maxAge : Option Nat} (missing : (f none).IsCautious failing)
    (found : ∀ value, (f (some value)).Only Move.AsksNothing) :
    ((lookup config codec slot maxAge).bind f).IsCautious failing := by
  have fetching : ((fetch config codec slot).bind f).IsCautious failing :=
    isCautious_fetch_bind missing found
  refine ⟨fun now answer => ?_, .inl trivial⟩
  rcases answer with _ | entry
  · exact fetching
  · change (Program.bind (if isUsable now maxAge entry then _ else _) f).IsCautious failing
    split
    · change (f (codec.decode entry.text)).IsCautious failing
      cases codec.decode entry.text with
      | none => exact missing
      | some value => exact Program.isCautious_of_only (found value)
    · exact fetching

end Cautious

/-- A call changes no entry before its producer fails, and ends with the error then. -/
theorem isCautious_populating (request : κ) :
    (populating config codec slot request : Program κ (Except ε α) (Ending (Except ε α))).IsCautious
      fun e => finishing config slot (.value (.error e)) := by
  have producing : (produceIfMissing config codec slot request :
      Program κ (Except ε α) (Ending (Except ε α))).IsCautious
        fun e => .done (.value (.error e)) := by
    rw [produceIfMissing_eq]
    refine isCautious_lookup_bind ⟨fun e => rfl, fun reply => ?_⟩ fun value => trivial
    exact only_afterReply (fun _ _ => trivial) codec reply
  exact producing.bind (only_finishing trivial)

theorem isCautious_getOrProduce (request : κ) :
    (getOrProduce config codec slot request :
      Program κ (Except ε α) (Ending (Except ε α))).IsCautious
      fun e => finishing config slot (.value (.error e)) := by
  by_cases exclusive : config.isExclusive slot.domain = true
  · rw [getOrProduce_eq_acquire config codec slot exclusive]
    exact isCautious_populating request
  · rw [getOrProduce_eq_populating config codec slot exclusive]
    exact isCautious_populating request

end Cache

/-! ### Threads -/

namespace Thread

variable {κ ε α β : Type}

/-- Whether the program of a thread is cautious. -/
def IsCautious (failing : ε → Program κ (Except ε α) β) : Thread κ (Except ε α) β → Prop
  | running p | waiting p => p.IsCautious failing
  | producing _ next =>
    (∀ e, next (.error e) = failing e) ∧ ∀ reply, (next reply).Only Move.AsksNothing

/-- Whether a thread asks no producer any more and none is at work. -/
def AsksNothing {ρ : Type} : Thread κ ρ β → Prop
  | running p | waiting p => p.Only Move.AsksNothing
  | producing .. => False

end Thread

namespace Machine

section Steps

variable {κ ε ρ α β : Type} {failing : ε → Program κ (Except ε α) β}

theorem asksNothing_of_onward (t t' : Thread κ ρ β) (onward : Onward t t')
    (silent : t.AsksNothing) : t'.AsksNothing := by
  cases onward with
  | stay => exact silent
  | wake => exact silent
  | access now answer => exact silent.2 now answer
  | acquire => exact silent.2
  | queue => exact silent.2
  | release => exact silent.2
  | ask => exact silent.1
  | reply answer => exact absurd silent id

theorem isCautious_of_onward (t t' : Thread κ (Except ε α) β) (onward : Onward t t')
    (cautious : t.IsCautious failing) : t'.IsCautious failing := by
  cases onward with
  | stay => exact cautious
  | wake => exact cautious
  | access now answer => exact cautious.1 now answer
  | acquire => exact cautious
  | queue => exact cautious
  | release => exact cautious
  | ask => exact cautious
  | reply answer => exact Program.isCautious_of_only (cautious.2 answer)

end Steps

section Replies

variable {σ κ ε ρ α β : Type} {backend : Backend σ} {i : Nat}

/-- Who asks nothing is not replied to. -/
theorem not_mem_of_asksNothing {m m' : Machine σ κ ρ α} {t : Thread κ ρ α}
    {events : List (Event ρ)} (ran : m.runEvents? backend events = some m')
    (present : m.threads[i]? = some t) (silent : t.AsksNothing) (answer : ρ) :
    .reply i answer ∉ events := by
  intro member
  obtain ⟨before, after, rfl⟩ := List.append_of_mem member
  obtain ⟨n, n', ran, replies, -⟩ := runEvents?_append_cons_iff.mp ran
  obtain ⟨u, here, silent⟩ := thread_of_runEvents? asksNothing_of_onward ran present silent
  obtain ⟨request, next, works, -⟩ := producing_of_reply? replies
  obtain rfl := Option.some.inj (here.symm.trans works)
  exact silent

/-- A cautious thread changes no entry in a step after which it may be replied to. -/
theorem entries_of_advance? {failures : Option (Nat → Option CacheError)}
    {m m' : Machine (ExpiringTexts × Nat) κ (Except ε α) β} {t : Thread κ (Except ε α) β}
    {failing : ε → Program κ (Except ε α) β}
    (advanced : m.advance? (.ofFailures failures) i = some m')
    (present : m.threads[i]? = some t) (cautious : t.IsCautious failing) :
    m'.tiers.entries = m.tiers.entries ∨ ∃ t', m'.threads[i]? = some t' ∧ t'.AsksNothing := by
  cases advance_of_advance? advanced with
  | access ready =>
    obtain rfl := Option.some.inj (present.symm.trans ready)
    rcases cautious.2 with reading | silent
    · exact .inl (reading.entries_perform failures m.now m.tiers)
    · exact .inr ⟨_, getElem?_accessed_self ready, silent _ _⟩
  | acquire ready => exact .inl rfl
  | release ready => exact .inl (congrArg Tiers.entries (m.freed_frame i _ _).2.1)
  | produce ready => exact .inl rfl

end Replies

/-! ### Calls that end -/

section Ending

variable {σ κ ε α : Type} {backend : Backend σ} {i : Nat} {config : CacheConfig} {slot : Slot}
  {m m' : Machine σ κ (Except ε α) (Ending (Except ε α))}
  {t : Thread κ (Except ε α) (Ending (Except ε α))}

/-- Whether a call is about to end with a result, or has ended with it. -/
def Ends (config : CacheConfig) (slot : Slot) (result : Ending (Except ε α))
    (t : Thread κ (Except ε α) (Ending (Except ε α))) : Prop :=
  t = .running (Cache.finishing config slot result) ∨ t = .running (.done result)

theorem ends_of_onward {result : Ending (Except ε α)}
    (t t' : Thread κ (Except ε α) (Ending (Except ε α)))
    (onward : Onward t t') (ends : Ends config slot result t) : Ends config slot result t' := by
  rcases ends with rfl | rfl
  · unfold Cache.finishing at onward
    split at onward
    · next exclusive =>
      cases onward with
      | stay => exact .inl (congrArg _ (if_pos exclusive).symm)
      | release => exact .inr rfl
    · cases onward with
      | stay => exact .inr rfl
  · cases onward with
    | stay => exact .inr rfl

/-- Who is about to end accesses no tier. -/
theorem Ends.ne_storage {result : Ending (Except ε α)} (ends : Ends config slot result t)
    {step : StorageStep} {next} : t ≠ .running (.storage step next) := by
  rintro rfl
  rcases ends with same | same
  · unfold Cache.finishing at same
    split at same <;> exact nomatch same
  · exact nomatch same

/-- A call whose producer fails goes on to end with the error. -/
theorem ends_of_runEvents? {events : List (Event (Except ε α))} {e : ε}
    (ran : m.runEvents? backend events = some m') (present : m.threads[i]? = some t)
    (cautious : t.IsCautious fun e => Cache.finishing config slot (.value (.error e)))
    (failed : .reply i (.error e) ∈ events) :
    ∃ t', m'.threads[i]? = some t' ∧ Ends config slot (.value (.error e)) t' := by
  obtain ⟨before, after, rfl⟩ := List.append_of_mem failed
  obtain ⟨n, n', ran, replies, later⟩ := runEvents?_append_cons_iff.mp ran
  obtain ⟨u, here, cautious⟩ := thread_of_runEvents? isCautious_of_onward ran present cautious
  obtain ⟨request, next, works, rfl⟩ := producing_of_reply? replies
  obtain rfl := Option.some.inj (here.symm.trans works)
  exact thread_of_runEvents? ends_of_onward later (getElem?_setThread_self works _)
    (.inl (congrArg _ (cautious.1 e)))

end Ending

/-! ### Entries -/

section Entries

variable {κ ε ρ α : Type} {failures : Option (Nat → Option CacheError)} {i : Nat}

/-- No step of a call whose producer fails changes an entry. -/
theorem entries_of_failed {config : CacheConfig} {slot : Slot}
    {m n n' m' : Machine (ExpiringTexts × Nat) κ (Except ε α) (Ending (Except ε α))}
    {t : Thread κ (Except ε α) (Ending (Except ε α))}
    {before after : List (Event (Except ε α))} {e : ε}
    (ran : m.runEvents? (.ofFailures failures) (before ++ .advance i :: after) = some m')
    (present : m.threads[i]? = some t)
    (cautious : t.IsCautious fun e => Cache.finishing config slot (.value (.error e)))
    (failed : .reply i (.error e) ∈ before ++ .advance i :: after)
    (reached : m.runEvents? (.ofFailures failures) before = some n)
    (advanced : n.advance? (.ofFailures failures) i = some n') :
    n'.tiers.entries = n.tiers.entries := by
  have stepped : n.step? (.ofFailures failures) (.advance i) = some n' := advanced
  rcases List.mem_append.mp failed with earlier | later
  · -- the call is about to end
    obtain ⟨u, here, ends⟩ := ends_of_runEvents? reached present cautious earlier
    rcases tiers_of_step? stepped with same | ⟨k, step, next, moved, ready, -⟩
    · exact congrArg Tiers.entries same
    · obtain rfl := Event.advance.inj moved
      exact absurd (Option.some.inj (here.symm.trans ready)) ends.ne_storage
  · -- the reply is to come, so the call still asks something
    obtain ⟨u, here, cautious⟩ := thread_of_runEvents? isCautious_of_onward reached present cautious
    rcases entries_of_advance? advanced here cautious with same | ⟨u', there, silent⟩
    · exact same
    · have onward : n'.runEvents? (.ofFailures failures) after = some m' := by
        rwa [runEvents?_append, reached, Option.bind_some, runEvents?_cons, stepped] at ran
      have behind := (List.mem_cons.mp later).resolve_left (fun same => nomatch same)
      exact absurd behind (not_mem_of_asksNothing onward there silent _)

/-- Entries that no step of a thread changes stay as they are while it is the only one to
take steps. -/
theorem entries_of_runEvents? {m m' : Machine (ExpiringTexts × Nat) κ ρ α}
    {events : List (Event ρ)} (ran : m.runEvents? (.ofFailures failures) events = some m')
    (own : ∀ k, .advance k ∈ events → k = i)
    (kept : ∀ before after n n', events = before ++ .advance i :: after →
      m.runEvents? (.ofFailures failures) before = some n →
      n.advance? (.ofFailures failures) i = some n' → n'.tiers.entries = n.tiers.entries) :
    m'.tiers.entries = m.tiers.entries := by
  induction events generalizing m with
  | nil =>
    obtain rfl := Option.some.inj ran
    rfl
  | cons event rest ih =>
    rw [runEvents?_cons, Option.bind_eq_some_iff] at ran
    obtain ⟨k, stepped, later⟩ := ran
    have onward : m'.tiers.entries = k.tiers.entries := by
      refine ih later (fun j member => own j (List.mem_cons_of_mem event member)) ?_
      intro before after n n' split reached advanced
      refine kept (event :: before) after n n' (by rw [split, List.cons_append]) ?_ advanced
      rw [runEvents?_cons, stepped]
      exact reached
    rw [onward]
    rcases tiers_of_step? stepped with same | ⟨j, step, next, rfl, -, -⟩
    · exact congrArg Tiers.entries same
    · obtain rfl := own j List.mem_cons_self
      exact kept [] rest m k rfl rfl stepped

end Entries

end Machine

/-! ### Calls whose producers fail -/

namespace Cache

/-- The producer of a call fails, with any contents of the tiers at first and any failures of
the durable one, while other programs of any kind are under way that take locks in turn.  No
step of the call changes an entry.  With one more step at most the call has ended with the
error of its producer, and it has no lock and wants none.  If it was the only one to take
steps then the entries are those at first, and all locks are free.  And every call of its
domain that has not begun while the lock of the domain is free, or that has waited and is now
the first in line, looks for its value and, if there is none, asks its own producer. -/
theorem failed_production {κ ε α : Type} (config : CacheConfig)
    (failures : Option (Nat → Option CacheError)) (now : Instant)
    (tiers : Tiers (ExpiringTexts × Nat))
    {programs : List (Program κ (Except ε α) (Ending (Except ε α)))}
    (locks : ∀ p ∈ programs, p.LocksInTurn none) {i : Nat} {codec : Codec α} {slot : Slot}
    {request : κ} (called : programs[i]? = some (getOrProduce config codec slot request))
    {events : List (Machine.Event (Except ε α))}
    {m : Machine (ExpiringTexts × Nat) κ (Except ε α) (Ending (Except ε α))}
    (ran : (Machine.start now tiers programs).runEvents? (.ofFailures failures) events = some m)
    {e : ε} (failed : .reply i (.error e) ∈ events) :
    (∀ before after n n', events = before ++ .advance i :: after →
      (Machine.start now tiers programs).runEvents? (.ofFailures failures) before = some n →
      n.advance? (.ofFailures failures) i = some n' → n'.tiers.entries = n.tiers.entries) ∧
    ∃ ended, (ended = m ∨ m.advance? (.ofFailures failures) i = some ended) ∧
      ended.threads[i]? = some (.running (.done (.value (.error e)))) ∧ ended.tiers = m.tiers ∧
      (∀ d, i ∉ ended.lines d) ∧
      ((∀ k, .advance k ∈ events → k = i) →
        ended.tiers.entries = tiers.entries ∧ ∀ d, ended.lines d = []) ∧
      ∀ j part codec' wanted,
        programs[j]? = some (getOrProduce config codec' ⟨slot.domain, part⟩ wanted) →
        (ended.threads[j]? =
            some (.running (getOrProduce config codec' ⟨slot.domain, part⟩ wanted)) ∧
          (config.isExclusive slot.domain = true → ended.lines slot.domain = []) ∨
        (∃ p, m.threads[j]? = some (.waiting p)) ∧ (ended.lines slot.domain).head? = some j) →
        ended.Proceeds (.ofFailures failures) config codec' ⟨slot.domain, part⟩ wanted j := by
  have begins : ∀ {j : Nat} {p : Program κ (Except ε α) (Ending (Except ε α))},
      programs[j]? = some p →
      (Machine.start now tiers programs).threads[j]? = some (.running p) := by
    intro j p programmed
    rw [Machine.start, List.getElem?_map, programmed]
    rfl
  have cautious : (getOrProduce config codec slot request :
      Program κ (Except ε α) (Ending (Except ε α))).IsCautious
        fun e => finishing config slot (.value (.error e)) :=
    isCautious_getOrProduce request
  have kept : ∀ before after n n', events = before ++ .advance i :: after →
      (Machine.start now tiers programs).runEvents? (.ofFailures failures) before = some n →
      n.advance? (.ofFailures failures) i = some n' → n'.tiers.entries = n.tiers.entries := by
    rintro before after n n' rfl reached advanced
    exact Machine.entries_of_failed ran (begins called) cautious failed reached advanced
  refine ⟨kept, ?_⟩
  obtain ⟨t, present, ends⟩ := Machine.ends_of_runEvents? ran (begins called) cautious failed
  obtain ⟨ended, ending, there, same, -⟩ : ∃ ended,
      (ended = m ∨ m.advance? (.ofFailures failures) i = some ended) ∧
      ended.threads[i]? = some (.running (.done (.value (.error e)))) ∧ ended.tiers = m.tiers ∧
      ended.asked = m.asked := by
    rcases ends with rfl | rfl
    · exact Machine.exists_of_finishing _ present
    · exact ⟨m, .inl rfl, present, rfl, rfl⟩
  have inTurn : ended.InTurn := by
    have before := Machine.inTurn_of_runEvents? locks ran
    rcases ending with rfl | advanced
    · exact before
    · have stepped : m.step? (.ofFailures failures) (.advance i) = some ended := advanced
      exact before.step stepped
  have absent : ∀ d, i ∉ ended.lines d := inTurn.absent_of_done there
  refine ⟨ended, ending, there, same, absent, fun own => ⟨?_, fun d => ?_⟩, ?_⟩
  · rw [same]
    exact Machine.entries_of_runEvents? ran own kept
  · rw [List.eq_nil_iff_forall_not_mem]
    intro k member
    have moved : k = i := by
      rcases ending with rfl | advanced
      · exact own k (Machine.advance_mem_of_mem_lines ran member)
      · have stepped : m.step? (.ofFailures failures) (.advance i) = some ended := advanced
        rcases Machine.mem_lines_of_step? stepped member with earlier | last
        · exact own k (Machine.advance_mem_of_mem_lines ran earlier)
        · exact (Machine.Event.advance.inj last).symm
    exact absent d (moved ▸ member)
  · rintro j part codec' wanted programmed (⟨ready, free⟩ | ⟨⟨p, waits⟩, head⟩)
    · exact Machine.proceeds_of_getOrProduce _ ready free
    · obtain rfl := Machine.eq_populating_of_waiting ran (begins programmed) waits
      -- it has been woken, for the head of a line does not wait
      have woken : ended.threads[j]? =
          some (.running (populating config codec' ⟨slot.domain, part⟩ wanted)) := by
        rcases ending with rfl | advanced
        · exact absurd waits (inTurn.not_waiting_of_head head _)
        · have stepped : m.step? (.ofFailures failures) (.advance i) = some ended := advanced
          obtain ⟨u, here, onward⟩ := Machine.onward_of_step? stepped waits
          cases onward with
          | stay => exact absurd here (inTurn.not_waiting_of_head head _)
          | wake => exact here
      exact Machine.proceeds_of_populating _ woken

/-- Texts as they are, except for one that cannot be read. -/
def questionable : Codec String := ⟨.ok, fun text => if text = "?" then none else some text⟩

/-- Two calls for different parts of an exclusive domain. -/
def twoCalls : List (Program Nat (Except String String) (Ending (Except String String))) :=
  [getOrProduce .standard questionable ⟨.economics, none⟩ 0,
    getOrProduce .standard questionable ⟨.economics, some "a"⟩ 1]

/-- Tiers with a near entry that is too old and a durable one that cannot be read. -/
def staleTiers : Tiers (ExpiringTexts × Nat) :=
  let key := CacheConfig.standard.key ⟨.economics, none⟩
  ⟨Keyed.empty.insert key ⟨"old", -Duration.seconds 600⟩,
    (ExpiringTexts.store .empty key "?" (Duration.seconds 1), 0)⟩

/-- The producer of the first call fails, once before the second call has begun and once while
it waits.  Every second access to the durable tier fails, too. -/
theorem failed_production_of_two_calls :
    let backend := Backend.ofFailures (some fun n => if n % 2 = 1 then some Faults.error else none)
    let start : Machine _ Nat (Except String String) (Ending (Except String String)) :=
      .start 0 staleTiers twoCalls
    (∃ m ended, start.runEvents? backend
        [.advance 0, .advance 0, .advance 0, .advance 0, .reply 0 (.error "late")] = some m ∧
      m.advance? backend 0 = some ended ∧
      ended.threads[0]? = some (.running (.done (.value (.error "late")))) ∧
      ended.tiers.entries = staleTiers.entries ∧
      ended.Proceeds backend .standard questionable ⟨.economics, some "a"⟩ 1 1) ∧
    ∃ m ended, start.runEvents? backend [.advance 0, .advance 1, .advance 0, .advance 0,
        .advance 0, .pass (Duration.milliseconds 250), .reply 0 (.error "late")] = some m ∧
      m.advance? backend 0 = some ended ∧
      ended.threads[0]? = some (.running (.done (.value (.error "late")))) ∧
      ended.Proceeds backend .standard questionable ⟨.economics, some "a"⟩ 1 1 := by
  intro backend start
  have locks : ∀ p ∈ twoCalls, p.LocksInTurn none := by
    intro p member
    rcases List.mem_cons.mp member with rfl | later
    · exact locksInTurn_getOrProduce _ _ _ _
    · obtain rfl := List.mem_singleton.mp later
      exact locksInTurn_getOrProduce _ _ _ _
  have first : twoCalls[0]? = some (getOrProduce .standard questionable ⟨.economics, none⟩ 0) := rfl
  have second : twoCalls[1]? =
    some (getOrProduce .standard questionable ⟨.economics, some "a"⟩ 1) := rfl
  refine ⟨?_, ?_⟩
  · have replied : (start.runEvents? backend [.advance 0, .advance 0, .advance 0, .advance 0,
      .reply 0 (.error "late")]).isSome = true := rfl
    have ran := (Option.some_get replied).symm
    have ends : ((Option.get _ replied).advance? backend 0).isSome = true := rfl
    obtain ⟨-, ended, ending, there, -, -, alone, onward⟩ := failed_production .standard _ 0
      staleTiers locks first ran (e := "late") (by simp)
    obtain ⟨entries, free⟩ := alone (by simp)
    have advanced : (Option.get _ replied).advance? backend 0 = some ended := by
      refine ending.resolve_left ?_
      rintro rfl
      exact nomatch show [0] = [] from free .economics
    have unmoved : ended.threads[1]? =
        some (.running (getOrProduce .standard questionable ⟨.economics, some "a"⟩ 1)) :=
      Machine.running_of_step? (show (Option.get _ replied).step? backend (.advance 0) = some ended
        from advanced) rfl (by simp)
    exact ⟨_, ended, ran, advanced, there, entries,
      onward 1 _ _ _ second (.inl ⟨unmoved, fun _ => free .economics⟩)⟩
  · have replied : (start.runEvents? backend [.advance 0, .advance 1, .advance 0, .advance 0,
      .advance 0, .pass (Duration.milliseconds 250), .reply 0 (.error "late")]).isSome = true := rfl
    have ran := (Option.some_get replied).symm
    obtain ⟨-, ended, ending, there, -, absent, -, onward⟩ := failed_production .standard _ 0
      staleTiers locks first ran (e := "late") (by simp)
    have advanced : (Option.get _ replied).advance? backend 0 = some ended := by
      refine ending.resolve_left ?_
      rintro rfl
      exact absent .economics (show 0 ∈ [0, 1] by decide)
    have waits : (Option.get _ replied).threads[1]? =
      some (.waiting (populating .standard questionable ⟨.economics, some "a"⟩ 1)) := rfl
    have next : (ended.lines .economics).head? = some 1 := by
      have frees : (Option.get _ replied).advance? backend 0 =
        some ((Option.get _ replied).freed 0 .economics (.done (.value (.error "late")))) := rfl
      rw [Option.some.inj (advanced.symm.trans frees)]
      rfl
    exact ⟨_, ended, ran, advanced, there, onward 1 _ _ _ second (.inr ⟨⟨_, waits⟩, next⟩)⟩

end Cache

end ChainActivity
