import ChainActivity.Proofs.Cache.Workload

/-!
# Single flight

In an exclusive domain at most one producer is at work at a time, and while a produced
value is young no other producer is asked for the same part: every call that looks gets
that value.

## Main definitions

* `Workload.Produces` — the producer of a call is at work.
* `Workload.requestsFor` — the requests that were sent for a part.
* `Workload.IsCalm` — where a call of a part can stand while the part has a young value.
* `Workload.CalmNext` — what such a call does next.
* `Workload.Settled` — the invariant of the time in which a stored value is young.

## Main statements

* `Workload.Orderly.eq_of_produces` — at most one producer of the domain is at work.
* `Workload.Settled.step` — a stored value stays as long as it is young.
* `Workload.settled_of_stored` — storing a produced value begins that time.
* `Workload.single_flight` — both, for every run.

## Design notes

What a call does past the lock depends on where it stood when the value was stored.
All calls of the part but the one that stores are outside or wait at that moment, for
the lock is held.  So each of them looks for a value after that, finds the new one, and
neither copies from the durable tier nor asks its producer.
-/

namespace ChainActivity.Workload

variable {κ ε α σ : Type} (w : Workload κ ε α)

/-! ### One producer -/

/-- Whether a thread is a call of the domain whose producer is at work. -/
def Produces (m : Machine σ κ (Except ε α) (Ending (Except ε α))) (i : Nat) : Prop :=
  ∃ part request sent next, w.tasks[i]? = some (.populate part request) ∧
    m.threads[i]? = some (.producing sent next)

section Producing

variable {w} {m : Machine σ κ (Except ε α) (Ending (Except ε α))} {i j : Nat}

/-- A call whose producer is at work is the head of the line. -/
theorem Orderly.head?_of_produces (orderly : w.Orderly m) (produces : w.Produces m i) :
    (m.lines w.domain).head? = some i := by
  obtain ⟨part, request, sent, next, tasked, present⟩ := produces
  cases orderly.thread i _ _ tasked present with
  | outside absent idle => rcases idle with same | ⟨result, same⟩ <;> exact nomatch same
  | waiting behind waits => exact nomatch waits
  | inside first inside => exact first

/-- The reply to a call whose producer is at work is stored. -/
theorem Orderly.next_of_producing (orderly : w.Orderly m) {part : Option String} {request : κ}
    (tasked : w.tasks[i]? = some (.populate part request)) {sent : κ} {next}
    (works : m.threads[i]? = some (.producing sent next)) : next = w.storing part := by
  cases orderly.thread i _ _ tasked works with
  | outside absent idle => rcases idle with same | ⟨result, same⟩ <;> exact nomatch same
  | waiting behind waits => exact nomatch waits
  | inside first inside => exact inside.producing_eq

/-- At most one producer of the domain is at work. -/
theorem Orderly.eq_of_produces (orderly : w.Orderly m) (first : w.Produces m i)
    (second : w.Produces m j) : i = j :=
  Option.some.inj ((orderly.head?_of_produces first).symm.trans (orderly.head?_of_produces second))

end Producing

/-! ### Calls of a part with a young value -/

/-- The moves of a call that neither looks for a value nor stores one. -/
def QuietMove : Move κ → Prop
  | .access (.readNear _) | .access (.writeNear ..) => False
  | .access _ => True
  | _ => False

/-- Where a call of a part can stand while the part has a young value: it is outside, it
waits, it is about to look, or it gives the lock back without looking or storing. -/
def IsCalm (part : Option String) (request : κ)
    (t : Thread κ (Except ε α) (Ending (Except ε α))) : Prop :=
  w.IsOutside part request t ∨ t = .waiting (w.locked part request) ∨
    t = .running (w.locked part request) ∨
    ∃ ending : Program κ (Except ε α) (Ending (Except ε α)), ending.Only QuietMove ∧
      t = .running (w.unlocking ending)

/-- Under the lock a call looks for a near entry first; one that may be used and read is
its answer. -/
theorem locked_eq (part : Option String) (request : κ) :
    ∃ next, w.locked part request = .storage (.readNear (w.key part)) next ∧
      ∀ now entry value,
        Cache.isUsable now (some (w.config.lifetime w.domain)) entry = true →
        (w.codec part).decode entry.text = some value →
        next now (some entry) = .release w.domain (.done (.value (.ok value))) := by
  refine ⟨_, rfl, fun now entry value usable readable => ?_⟩
  change Program.bind (Program.bind (if Cache.isUsable now _ entry then _ else _) _) _ = _
  rw [slot, if_pos usable, readable]
  rfl

/-- What a calm call that can go on does next.  It never asks its producer. -/
inductive CalmNext (part : Option String) (request : κ) :
    Program κ (Except ε α) (Ending (Except ε α)) → Prop where
  | acquire : CalmNext part request (.acquire w.domain (w.locked part request))
  | ended (result : Ending (Except ε α)) : CalmNext part request (.done result)
  | look {next} (finds : ∀ now entry value,
      Cache.isUsable now (some (w.config.lifetime w.domain)) entry = true →
      (w.codec part).decode entry.text = some value →
      next now (some entry) = .release w.domain (.done (.value (.ok value)))) :
    CalmNext part request (.storage (.readNear (w.key part)) next)
  | access {step : StorageStep} {next} (quiet : (QuietMove : Move κ → Prop) (.access step))
      (onward : ∀ now answer, w.IsCalm part request (.running (next now answer))) :
    CalmNext part request (.storage step next)
  | release (result : Ending (Except ε α)) :
    CalmNext part request (.release w.domain (.done result))

section Calm

variable {w} {part : Option String} {request : κ}

/-- A calm call does nothing else. -/
theorem IsCalm.next {p : Program κ (Except ε α) (Ending (Except ε α))}
    (calm : w.IsCalm part request (.running p)) : w.CalmNext part request p := by
  rcases calm with (same | ⟨result, same⟩) | same | same | ⟨ending, only, same⟩
  · rw [program_populate] at same
    obtain rfl := Thread.running.inj same
    exact .acquire
  · obtain rfl := Thread.running.inj same
    exact .ended result
  · exact nomatch same
  · obtain rfl := Thread.running.inj same
    obtain ⟨next, looks, finds⟩ := w.locked_eq part request
    rw [looks]
    exact .look finds
  · obtain rfl := Thread.running.inj same
    cases ending with
    | done result => exact .release result
    | storage step next =>
      exact .access only.1 fun now answer =>
        .inr (.inr (.inr ⟨next now answer, only.2 now answer, rfl⟩))
    | acquire domain next => exact absurd only.1 id
    | release domain next => exact absurd only.1 id
    | produce other next => exact absurd only.1 id

/-- A calm call that is woken is about to look. -/
theorem IsCalm.woken {t : Thread κ (Except ε α) (Ending (Except ε α))}
    (calm : w.IsCalm part request t) :
    w.IsCalm part request (Machine.woken t) := by
  rcases calm with (rfl | ⟨result, rfl⟩) | rfl | rfl | ⟨ending, only, rfl⟩
  · exact .inl (.inl rfl)
  · exact .inl (.inr ⟨result, rfl⟩)
  · exact .inr (.inr (.inl rfl))
  · exact .inr (.inr (.inl rfl))
  · exact .inr (.inr (.inr ⟨ending, only, rfl⟩))

/-- The producer of a calm call is not at work. -/
theorem IsCalm.not_producing {sent : κ} {next} :
    ¬ w.IsCalm part request (.producing sent next) := by
  rintro ((same | ⟨result, same⟩) | same | same | ⟨ending, only, same⟩) <;> exact nomatch same

end Calm

/-! ### A young value stays -/

/-- Whether a request was sent for a part. -/
def isFor (part : Option String) (sent : Nat × κ) : Bool :=
  match w.tasks[sent.1]? with
  | some (.populate other _) => decide (other = part)
  | _ => false

/-- The requests that were sent for a part, in order, with the threads that sent them. -/
def requestsFor (part : Option String) (m : Machine σ κ (Except ε α) (Ending (Except ε α))) :
    List (Nat × κ) :=
  m.asked.filter (w.isFor part)

/-- A machine in which a part has a near entry, no more requests were sent for it than
before, and its calls are calm. -/
structure Settled (part : Option String) (entry : LocalEntry) (earlier : List (Nat × κ))
    (m : Machine σ κ (Except ε α) (Ending (Except ε α))) : Prop where
  near : m.tiers.near.get? (w.key part) = some entry
  requests : w.requestsFor part m = earlier
  calm : ∀ (i : Nat) (request : κ) (t : Thread κ (Except ε α) (Ending (Except ε α))),
    w.tasks[i]? = some (.populate part request) → m.threads[i]? = some t →
    w.IsCalm part request t

/-- An access that does not write under a key leaves its near entry alone. -/
theorem get?_near_perform (backend : Backend σ) (now : Instant) (tiers : Tiers σ)
    {step : StorageStep} {key : String}
    (other : ∀ text since, step ≠ .writeNear key text since) :
    (step.perform backend now tiers).2.near.get? key = tiers.near.get? key := by
  cases step with
  | writeNear k text since =>
    have apart : k ≠ key := by
      rintro rfl
      exact other text since rfl
    exact Keyed.get?_insert_of_ne _ apart _
  | _ => rfl

namespace Settled

variable {w} {backend : Backend σ} {m m' : Machine σ κ (Except ε α) (Ending (Except ε α))} {i : Nat}
  {part : Option String} {entry : LocalEntry} {earlier : List (Nat × κ)}
  {old t : Thread κ (Except ε α) (Ending (Except ε α))}

/-- One thread may change, if it stays calm. -/
theorem update (settled : w.Settled part entry earlier m) (present : m.threads[i]? = some old)
    (near : m'.tiers.near.get? (w.key part) = some entry)
    (requests : w.requestsFor part m' = earlier) (threads : m'.threads = m.threads.set i t)
    (calm : ∀ request, w.tasks[i]? = some (.populate part request) →
      w.IsCalm part request old → w.IsCalm part request t) :
    w.Settled part entry earlier m' where
  near := near
  requests := requests
  calm j request u tasked found := by
    rw [threads] at found
    by_cases same : j = i
    · subst same
      rw [List.getElem?_set_self (List.getElem?_eq_some_iff.mp present).1] at found
      obtain rfl := Option.some.inj found
      exact calm request tasked (settled.calm j request old tasked present)
    · rw [List.getElem?_set_ne (Ne.symm same)] at found
      exact settled.calm j request u tasked found

/-- Nobody writes the near entry of the part: not its own calls, which are calm, nor
those of other parts, which have other keys, nor anybody else. -/
theorem not_written (orderly : w.Orderly m) (settled : w.Settled part entry earlier m)
    {step : StorageStep} {next} (ready : m.threads[i]? = some (.running (.storage step next)))
    (text : String) (since : Option Instant) : step ≠ .writeNear (w.key part) text since := by
  rintro rfl
  obtain ⟨task, tasked⟩ := orderly.exists_task ready
  have sound := orderly.thread i task _ tasked ready
  cases task with
  | other p => exact sound.1 part rfl
  | populate owned request =>
    by_cases same : owned = part
    · subst same
      cases (settled.calm i request _ tasked ready).next with
      | access quiet onward => exact quiet
    · cases sound.next with
      | access first own onward =>
        have own : w.key part = w.key owned := own
        exact same (w.key_injective own).symm

/-- An access to a tier keeps the entry while it is young: who looks finds it. -/
theorem accessed (orderly : w.Orderly m) (settled : w.Settled part entry earlier m)
    {value : α} (young : m.now - entry.storedAt < w.config.lifetime w.domain)
    (readable : (w.codec part).decode entry.text = some value) {step : StorageStep} {next}
    (ready : m.threads[i]? = some (.running (.storage step next))) :
    w.Settled part entry earlier (m.accessed backend i step next) := by
  have near := (get?_near_perform backend m.now m.tiers
    (settled.not_written orderly ready)).trans settled.near
  refine settled.update ready near settled.requests rfl fun request tasked calm => ?_
  cases calm.next with
  | look finds =>
    have usable : Cache.isUsable m.now (some (w.config.lifetime w.domain)) entry = true :=
      decide_eq_true young
    have answer := finds m.now entry value usable readable
    rw [← settled.near] at answer
    exact .inr (.inr (.inr ⟨.done (.value (.ok value)), trivial, congrArg Thread.running answer⟩))
  | access quiet onward => exact onward _ _

/-- So does joining a line. -/
theorem queued (settled : w.Settled part entry earlier m) {d : Domain} {next}
    (ready : m.threads[i]? = some (.running (.acquire d next))) :
    w.Settled part entry earlier (m.queued i d next) := by
  refine settled.update ready settled.near settled.requests rfl fun request tasked calm => ?_
  cases calm.next with
  | acquire =>
    split
    · exact .inr (.inr (.inl rfl))
    · exact .inr (.inl rfl)

/-- So does giving a lock back. -/
theorem freed (settled : w.Settled part entry earlier m) {d : Domain} {next}
    (ready : m.threads[i]? = some (.running (.release d next))) :
    w.Settled part entry earlier (m.freed i d next) := by
  obtain ⟨-, tiers, asked, -⟩ := m.freed_frame i d next
  refine ⟨by rw [tiers]; exact settled.near, ?_, fun j request t tasked found => ?_⟩
  · rw [requestsFor, asked]
    exact settled.requests
  · by_cases same : j = i
    · subst same
      rw [m.getElem?_freed_self j d next ready] at found
      obtain rfl := Option.some.inj found
      cases (settled.calm j request _ tasked ready).next with
      | release result => exact .inl (.inr ⟨result, rfl⟩)
    · rw [m.getElem?_freed_of_ne i d next same] at found
      split at found
      · rw [Option.map_eq_some_iff] at found
        obtain ⟨old, present, rfl⟩ := found
        exact (settled.calm j request old tasked present).woken
      · exact settled.calm j request t tasked found

/-- No calm call sends a request. -/
theorem sent (settled : w.Settled part entry earlier m) {request : κ} {next}
    (ready : m.threads[i]? = some (.running (.produce request next))) :
    w.Settled part entry earlier (m.sent i request next) := by
  have foreign : ∀ wanted, w.tasks[i]? ≠ some (.populate part wanted) := by
    intro wanted tasked
    exact nomatch (settled.calm i wanted _ tasked ready).next
  have unwanted : w.isFor part (i, request) = false := by
    unfold isFor
    split
    · next other wanted tasked =>
      rw [decide_eq_false_iff_not]
      rintro rfl
      exact foreign wanted tasked
    · rfl
  refine settled.update ready settled.near ?_ rfl
    fun wanted tasked => absurd tasked (foreign wanted)
  change (m.asked ++ [(i, request)]).filter (w.isFor part) = earlier
  rw [List.filter_append, List.filter_cons_of_neg (by rw [unwanted]; exact Bool.false_ne_true),
    List.filter_nil, List.append_nil]
  exact settled.requests

/-- A reply is for no calm call. -/
theorem replied (settled : w.Settled part entry earlier m) {request : κ} {next}
    (works : m.threads[i]? = some (.producing request next)) (answer : Except ε α) :
    w.Settled part entry earlier (m.setThread i (.running (next answer))) :=
  settled.update works settled.near settled.requests rfl fun _ _ calm =>
    absurd calm IsCalm.not_producing

/-- While the entry is young every step keeps it, and no request is sent for the part. -/
theorem step (orderly : w.Orderly m) (settled : w.Settled part entry earlier m) {value : α}
    (young : m.now - entry.storedAt < w.config.lifetime w.domain)
    (readable : (w.codec part).decode entry.text = some value)
    {event : Machine.Event (Except ε α)} (stepped : m.step? backend event = some m') :
    w.Settled part entry earlier m' := by
  cases event with
  | advance i =>
    cases Machine.advance_of_advance? (show m.advance? backend i = some m' from stepped) with
    | access ready => exact settled.accessed orderly young readable ready
    | acquire ready => exact settled.queued ready
    | release ready => exact settled.freed ready
    | produce ready => exact settled.sent ready
  | reply i answer =>
    obtain ⟨request, next, works, rfl⟩ := Machine.producing_of_reply? stepped
    exact settled.replied works answer
  | pass duration =>
    obtain rfl := Option.some.inj stepped
    exact ⟨settled.near, settled.requests, settled.calm⟩

end Settled

/-! ### Storing what was produced -/

/-- A value that can be written is stored in the near tier first, then in the durable one,
and then the call ends in some way. -/
theorem exists_storing_ok {part : Option String} {value : α} {text : String}
    (written : (w.codec part).encode value = .ok text) :
    ∃ result : Ending (Except CacheError Unit) → Ending (Except ε α), w.storing part (.ok value) =
      .storage (.writeNear (w.key part) text none) fun _ _ =>
        w.unlocking (.storage (.durableSet (w.key part) text (w.config.lifetime w.domain))
          fun _ answer => .done (result answer)) := by
  rw [storing, Cache.afterReply, Cache.set, written]
  exact ⟨_, rfl⟩

/-- The moment at which a produced value is stored in the near tier is the beginning of
the time in which its part is settled. -/
theorem settled_of_stored {backend : Backend σ}
    {m stored : Machine σ κ (Except ε α) (Ending (Except ε α))} {i : Nat} {part : Option String}
    {request : κ} {value : α} {text : String} (orderly : w.Orderly m)
    (tasked : w.tasks[i]? = some (.populate part request))
    (ready : m.threads[i]? = some (.running (w.storing part (.ok value))))
    (written : (w.codec part).encode value = .ok text)
    (advanced : m.advance? backend i = some stored) :
    w.Settled part ⟨text, m.now⟩ (w.requestsFor part m) stored := by
  obtain ⟨result, storing⟩ := w.exists_storing_ok written
  rw [storing] at ready
  rw [Machine.advance?_of_storage ready] at advanced
  obtain rfl := Option.some.inj advanced
  have first : (m.lines w.domain).head? = some i := by
    cases (orderly.thread i _ _ tasked ready).next with
    | access first own onward => exact first
  refine ⟨Keyed.get?_insert_self _ _ _, rfl, fun j wanted t populates found => ?_⟩
  by_cases same : j = i
  · subst same
    rw [Machine.getElem?_accessed_self ready] at found
    obtain rfl := Option.some.inj found
    exact .inr (.inr (.inr ⟨.storage (.durableSet _ text _) fun _ answer => .done (result answer),
      ⟨trivial, fun _ _ => trivial⟩, rfl⟩))
  · rw [Machine.getElem?_accessed_of_ne same] at found
    -- the lock is held by another call, so this one is outside or waits
    cases orderly.thread j _ t populates found with
    | outside absent idle => exact .inl idle
    | waiting behind waits => exact .inr (.inl waits)
    | inside ahead inside => exact absurd (Option.some.inj (ahead.symm.trans first)) same

/-- A settled part stays settled along every run that ends while its value is young. -/
theorem settled_of_runEvents? {backend : Backend σ}
    {m m' : Machine σ κ (Except ε α) (Ending (Except ε α))} {part : Option String}
    {entry : LocalEntry}
    {earlier : List (Nat × κ)} {value : α} {events : List (Machine.Event (Except ε α))}
    (orderly : w.Orderly m) (settled : w.Settled part entry earlier m)
    (ran : m.runEvents? backend events = some m')
    (young : m'.now < entry.storedAt + w.config.lifetime w.domain)
    (readable : (w.codec part).decode entry.text = some value) :
    w.Orderly m' ∧ w.Settled part entry earlier m' := by
  have kept : ∀ n n' event, event ∈ events → n'.now ≤ m'.now →
      w.Orderly n ∧ w.Settled part entry earlier n → n.step? backend event = some n' →
      w.Orderly n' ∧ w.Settled part entry earlier n' := by
    -- time does not run backwards, so the value is young at every step of the run
    rintro n n' event - bound ⟨orderly, settled⟩ stepped
    have early : n.now < entry.storedAt + w.config.lifetime w.domain :=
      Int.lt_of_le_of_lt (Int.le_trans (Machine.now_le_of_step? stepped) bound) young
    exact ⟨orderly.step stepped,
      settled.step orderly (Int.sub_left_lt_of_lt_add early) readable stepped⟩
  exact Machine.invariant_of_runEvents? ran ⟨orderly, settled⟩ kept

/-- A call of a settled part that looks for a value while the entry is young finds it,
gives the lock back, and ends with that value. -/
theorem Settled.answer {w : Workload κ ε α} {backend : Backend σ}
    {m : Machine σ κ (Except ε α) (Ending (Except ε α))} {j : Nat} {part : Option String}
    {entry : LocalEntry} {earlier : List (Nat × κ)} {wanted : κ} {value : α}
    (settled : w.Settled part entry earlier m)
    (young : m.now - entry.storedAt < w.config.lifetime w.domain)
    (readable : (w.codec part).decode entry.text = some value)
    (tasked : w.tasks[j]? = some (.populate part wanted)) {next}
    (looks : m.threads[j]? = some (.running (.storage (.readNear (w.key part)) next))) :
    ∃ looked, m.advance? backend j = some looked ∧
      ∀ later final, looked.runEvents? backend later = some final →
        final.threads[j]? = some (.running (.release w.domain (.done (.value (.ok value))))) ∨
          final.threads[j]? = some (.running (.done (.value (.ok value)))) := by
  refine ⟨_, Machine.advance?_of_storage looks, fun later final ran => ?_⟩
  have usable : Cache.isUsable m.now (some (w.config.lifetime w.domain)) entry = true :=
    decide_eq_true young
  have answer : next m.now (some entry) = .release w.domain (.done (.value (.ok value))) := by
    cases (settled.calm j wanted _ tasked looks).next with
    | look finds => exact finds m.now entry value usable readable
    | access quiet onward => exact absurd quiet id
  rw [← settled.near] at answer
  have ready : (m.accessed backend j (.readNear (w.key part)) next).threads[j]? =
      some (.running (.release w.domain (.done (.value (.ok value))))) := by
    rw [Machine.getElem?_accessed_self looks]
    exact congrArg (fun p => some (Thread.running p)) answer
  exact Machine.invariant_of_runEvents? ran (.inl ready)
    fun _ _ _ _ _ ending stepped => Machine.ended_of_step? stepped ending

/-- Calls of an exclusive domain, of any number and for any parts, over any durable tier,
with any contents of the tiers at first and in any order of steps.  At no moment are two
producers of the domain at work.  And when a producer has replied with a value that can
be written and read back, and its call stores it in the near tier, then until the value
is too old no request is sent for the part, and every call of the part that looks for a
value ends with this one. -/
theorem single_flight (backend : Backend σ) (now : Instant) (tiers : Tiers σ) :
    (∀ events m, (w.start now tiers).runEvents? backend events = some m →
      ∀ i j, w.Produces m i → w.Produces m j → i = j) ∧
    (∀ before waiting m i part request value text stored,
      (w.start now tiers).runEvents? backend (before ++ .reply i (.ok value) :: waiting) = some m →
      .advance i ∉ waiting → w.tasks[i]? = some (.populate part request) →
      (w.codec part).encode value = .ok text → (w.codec part).decode text = some value →
      m.advance? backend i = some stored →
      stored.tiers.near.get? (w.key part) = some ⟨text, m.now⟩ ∧
      ∀ after m', stored.runEvents? backend after = some m' →
        m'.now < m.now + w.config.lifetime w.domain →
        w.requestsFor part m' = w.requestsFor part m ∧
        ∀ j wanted next, w.tasks[j]? = some (.populate part wanted) →
          m'.threads[j]? = some (.running (.storage (.readNear (w.key part)) next)) →
          ∃ looked, m'.advance? backend j = some looked ∧
            ∀ later final, looked.runEvents? backend later = some final →
              final.threads[j]? = some (.running (.release w.domain (.done (.value (.ok value))))) ∨
                final.threads[j]? = some (.running (.done (.value (.ok value))))) := by
  refine ⟨fun events m ran i j => (w.orderly_of_runEvents? ran).eq_of_produces, ?_⟩
  intro before waiting m i part request value text stored ran unmoved tasked written readable
    advanced
  have orderly : w.Orderly m := w.orderly_of_runEvents? ran
  -- from the reply on the call stands where it stores, until it takes its step
  rw [Machine.runEvents?_append, Option.bind_eq_some_iff] at ran
  obtain ⟨producing, ran, replying⟩ := ran
  rw [Machine.runEvents?_cons, Option.bind_eq_some_iff] at replying
  obtain ⟨replied, replies, waited⟩ := replying
  have ready : replied.threads[i]? = some (.running (w.storing part (.ok value))) := by
    obtain ⟨sent, next, works, rfl⟩ := Machine.producing_of_reply? replies
    rw [Machine.getElem?_setThread_self works,
      (w.orderly_of_runEvents? ran).next_of_producing tasked works]
  have settled := w.settled_of_stored orderly tasked
    (Machine.running_of_runEvents? waited ready unmoved) written advanced
  have stepped : m.step? backend (.advance i) = some stored := advanced
  have order : w.Orderly stored := orderly.step stepped
  refine ⟨settled.near, fun after m' ran young => ?_⟩
  obtain ⟨-, later⟩ : w.Orderly m' ∧ w.Settled part ⟨text, m.now⟩ (w.requestsFor part m) m' :=
    w.settled_of_runEvents? order settled ran young readable
  refine ⟨later.requests, fun j wanted next populates looks => ?_⟩
  exact later.answer (Int.sub_left_lt_of_lt_add young) readable populates looks

/-- Two calls for the same part of an exclusive domain, one for another part, and one of
another domain. -/
def ofFourCalls : Workload Nat String String where
  config := .standard
  domain := .economics
  exclusive := rfl
  codec _ := ⟨.ok, some⟩
  tasks := [.populate none 0, .populate none 1, .populate (some "a") 2,
    .other (Cache.getOrProduce .standard ⟨.ok, some⟩ ⟨.nodes, none⟩ 3)]
  avoiding p member := by
    have other : p = Cache.getOrProduce .standard ⟨.ok, some⟩ ⟨.nodes, none⟩ 3 := by
      simpa using member
    rw [other]
    exact Cache.avoids_getOrProduce (by decide) _ _

/-- The second call waits while the producer of the first is at work, looks half a second
after the value was stored, and ends with that value. -/
theorem single_flight_of_two_calls :
    let before :=
      [.advance 0, .advance 0, .advance 0, .advance 0, .pass (Duration.milliseconds 250)]
    let waiting := [.advance 1, .advance 2, .pass (Duration.milliseconds 5)]
    let after := [.advance 0, .pass (Duration.milliseconds 500), .advance 0]
    ∃ m stored m' looked, (ofFourCalls.start 0 ⟨.empty, ()⟩).runEvents? .absent
        (before ++ .reply 0 (.ok "x") :: waiting) = some m ∧
      (∀ i j, ofFourCalls.Produces m i → ofFourCalls.Produces m j → i = j) ∧
      m.advance? .absent 0 = some stored ∧ stored.runEvents? .absent after = some m' ∧
      ofFourCalls.requestsFor none m' = ofFourCalls.requestsFor none m ∧
      m'.advance? .absent 1 = some looked ∧
      ∀ final,
        looked.runEvents? .absent [.pass (Duration.milliseconds 60), .advance 1] = some final →
        final.threads[1]? = some (.running (.release .economics (.done (.value (.ok "x"))))) ∨
          final.threads[1]? = some (.running (.done (.value (.ok "x")))) := by
  intro before waiting after
  obtain ⟨alone, flight⟩ := ofFourCalls.single_flight .absent 0 ⟨.empty, ()⟩
  have replied : ((ofFourCalls.start 0 ⟨.empty, ()⟩).runEvents? .absent
    (before ++ .reply 0 (.ok "x") :: waiting)).isSome = true := rfl
  have stores : ((Option.get _ replied).advance? .absent 0).isSome = true := rfl
  have waited : ((Option.get _ stores).runEvents? .absent after).isSome = true := rfl
  have ran := (Option.some_get replied).symm
  have settled := (flight before waiting _ 0 none 0 "x" "x" _ ran (by simp [waiting]) rfl rfl rfl
    (Option.some_get stores).symm).2
  have young : ((Duration.milliseconds 755 : Nat) : Int) <
      (Duration.milliseconds 255 : Nat) + (Duration.seconds 600 : Nat) := by decide
  obtain ⟨requests, answers⟩ := settled after _ (Option.some_get waited).symm young
  obtain ⟨next, shape, -⟩ := ofFourCalls.locked_eq none 1
  have looks : (Option.get _ waited).threads[1]? =
    some (.running (ofFourCalls.locked none 1)) := rfl
  obtain ⟨looked, advanced, ending⟩ := answers 1 1 next rfl (by rw [looks, shape])
  exact ⟨_, _, _, looked, ran, alone _ _ ran, (Option.some_get stores).symm,
    (Option.some_get waited).symm, requests, advanced, ending _⟩

end ChainActivity.Workload
