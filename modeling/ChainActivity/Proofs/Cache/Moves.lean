import ChainActivity.Cache.Basic
import ChainActivity.Proofs.Cache.Key

/-!
# Moves of cache calls

What a call may do while it is under way, whatever the answers to its steps are.

## Main definitions

* `Move` — an access to a tier, a lock that is taken or given back, a request.
* `Program.Only` — whether a program makes only moves of a kind.
* `Move.Avoids` — the moves that leave the near entries and the lock of a domain alone.

## Main statements

* `Program.Only.bind` — the moves of programs one after the other.
* `Program.bind_done`, `Program.bind_assoc` — one after the other in whatever grouping.
* `Cache.only_get`, `Cache.only_set`, `Cache.only_produceIfMissing`, … — a call of the
  cache accesses the key of its slot only.
* `Cache.avoids_getOrProduce`, … — so it avoids every other domain.
-/

namespace ChainActivity

/-- What a program can do in a step. -/
inductive Move (κ : Type) where
  | access (step : StorageStep)
  | acquire (domain : Domain)
  | release (domain : Domain)
  | ask (request : κ)

/-- The key that an access is about. -/
def StorageStep.key? : StorageStep → Option String
  | readNear key | writeNear key _ _ | durableGet key | durableSet key _ _ | durableTtl key =>
    some key
  | durableFlush => none

namespace Program

variable {κ ρ α β γ : Type}

/-- Whether a program makes only moves of a kind, whatever it is answered. -/
def Only (allowed : Move κ → Prop) : Program κ ρ α → Prop
  | .done _ => True
  | .storage step next => allowed (.access step) ∧ ∀ now answer, (next now answer).Only allowed
  | .acquire domain next => allowed (.acquire domain) ∧ next.Only allowed
  | .release domain next => allowed (.release domain) ∧ next.Only allowed
  | .produce request next => allowed (.ask request) ∧ ∀ reply, (next reply).Only allowed

/-- The moves of programs one after the other are the moves of each. -/
theorem Only.bind {allowed : Move κ → Prop} {p : Program κ ρ α} {f : α → Program κ ρ β}
    (first : p.Only allowed) (second : ∀ a, (f a).Only allowed) : (p.bind f).Only allowed := by
  induction p with
  | done a => exact second a
  | storage step next ih =>
    exact ⟨first.1, fun now answer => ih now answer (first.2 now answer)⟩
  | acquire domain next ih => exact ⟨first.1, ih first.2⟩
  | release domain next ih => exact ⟨first.1, ih first.2⟩
  | produce request next ih => exact ⟨first.1, fun reply => ih reply (first.2 reply)⟩

@[simp] theorem bind_done (p : Program κ ρ α) : p.bind .done = p := by
  induction p with
  | done a => rfl
  | storage step next ih =>
    exact congrArg (storage step) (funext fun now => funext fun answer => ih now answer)
  | acquire domain next ih => exact congrArg (acquire domain) ih
  | release domain next ih => exact congrArg (release domain) ih
  | produce request next ih => exact congrArg (produce request) (funext ih)

theorem bind_assoc (p : Program κ ρ α) (f : α → Program κ ρ β) (g : β → Program κ ρ γ) :
    (p.bind f).bind g = p.bind fun a => (f a).bind g := by
  induction p with
  | done a => rfl
  | storage step next ih =>
    exact congrArg (storage step) (funext fun now => funext fun answer => ih now answer)
  | acquire domain next ih => exact congrArg (acquire domain) ih
  | release domain next ih => exact congrArg (release domain) ih
  | produce request next ih => exact congrArg (produce request) (funext ih)

end Program

/-! ### Calls of the cache -/

namespace Cache

section Parts

variable {κ ρ ε α : Type} (config : CacheConfig) (codec : Codec α) (slot : Slot)

/-- What is done with the reply of a producer. -/
def afterReply : Except ε α → Program κ ρ (Ending (Except ε α))
  | .error e => .done (.value (.error e))
  | .ok value =>
    (set config codec slot value).bind fun stored => .done (stored.map fun _ => .ok value)

/-- What is done with what reading gave: it is the answer, or a producer is asked. -/
def afterGet (request : κ) : Option α → Program κ (Except ε α) (Ending (Except ε α))
  | some value => .done (.value (.ok value))
  | none => .produce request (afterReply config codec slot)

/-- Producing what is missing is reading and going on with what was read. -/
theorem produceIfMissing_eq (request : κ) :
    (produceIfMissing config codec slot request : Program κ (Except ε α) (Ending (Except ε α))) =
      (get config codec slot).bind (afterGet config codec slot request) :=
  rfl

/-- In an exclusive domain that is done between taking and giving back the lock. -/
theorem getOrProduce_of_exclusive (exclusive : config.isExclusive slot.domain = true)
    (request : κ) :
    (getOrProduce config codec slot request : Program κ (Except ε α) (Ending (Except ε α))) =
      .acquire slot.domain ((produceIfMissing config codec slot request).bind fun result =>
        .release slot.domain (.done result)) := by
  rw [getOrProduce, if_pos exclusive]
  rfl

end Parts

variable {κ ρ ε α : Type} {allowed : Move κ → Prop} {config : CacheConfig} {slot : Slot}
  (access : ∀ step : StorageStep, step.key? = some (config.key slot) → allowed (.access step))
include access

/-- Asking the durable tier and copying what is found accesses one key. -/
theorem only_fetch (codec : Codec α) :
    (fetch config codec slot : Program κ ρ (Option α)).Only allowed := by
  unfold fetch
  refine ⟨access _ rfl, fun now answer => ?_⟩
  rcases answer with e | text?
  · trivial
  · rcases text? with _ | text
    · trivial
    · dsimp only [Program.bind]
      cases codec.decode text with
      | none => trivial
      | some value => exact ⟨access _ rfl, fun _ _ => ⟨access _ rfl, fun _ _ => trivial⟩⟩

/-- Looking into both tiers accesses one key. -/
theorem only_lookup (codec : Codec α) (maxAge : Option Nat) :
    (lookup config codec slot maxAge : Program κ ρ (Option α)).Only allowed := by
  refine ⟨access _ rfl, fun now answer => ?_⟩
  rcases answer with _ | entry
  · exact only_fetch access codec
  · change Program.Only allowed (if isUsable now maxAge entry then _ else _)
    split
    · trivial
    · exact only_fetch access codec

theorem only_get (codec : Codec α) :
    (get config codec slot : Program κ ρ (Option α)).Only allowed :=
  only_lookup access codec _

/-- Storing a value accesses one key. -/
theorem only_set (codec : Codec α) (value : α) :
    (set config codec slot value : Program κ ρ (Ending (Except CacheError Unit))).Only allowed := by
  unfold set
  split
  · trivial
  · exact ⟨access _ rfl, fun _ _ => ⟨access _ rfl, fun _ _ => trivial⟩⟩

/-- Storing what was produced accesses one key. -/
theorem only_afterReply (codec : Codec α) (reply : Except ε α) :
    (afterReply config codec slot reply : Program κ ρ (Ending (Except ε α))).Only allowed := by
  rcases reply with e | value
  · trivial
  · exact Program.Only.bind (only_set access codec value) fun _ => trivial

/-- Producing what is missing accesses one key, and asks for one thing. -/
theorem only_produceIfMissing (codec : Codec α) {request : κ} (asks : allowed (.ask request)) :
    (produceIfMissing config codec slot request :
      Program κ (Except ε α) (Ending (Except ε α))).Only allowed := by
  rw [produceIfMissing_eq]
  refine Program.Only.bind (only_get access codec) fun found => ?_
  rcases found with _ | value
  · exact ⟨asks, only_afterReply access codec⟩
  · trivial

/-- In an exclusive domain the lock of the domain is taken and given back, too. -/
theorem only_getOrProduce (codec : Codec α) {request : κ} (asks : allowed (.ask request))
    (acquires : allowed (.acquire slot.domain)) (releases : allowed (.release slot.domain)) :
    (getOrProduce config codec slot request :
      Program κ (Except ε α) (Ending (Except ε α))).Only allowed := by
  have produces := only_produceIfMissing (ε := ε) access codec asks
  by_cases exclusive : config.isExclusive slot.domain = true
  · rw [getOrProduce_of_exclusive config codec slot exclusive]
    exact ⟨acquires, Program.Only.bind produces fun result => ⟨releases, trivial⟩⟩
  · rw [getOrProduce, if_neg exclusive]
    exact produces

end Cache

/-! ### Other domains -/

/-- The moves that leave the near entries and the lock of a domain alone. -/
def Move.Avoids {κ : Type} (config : CacheConfig) (domain : Domain) : Move κ → Prop
  | access (.writeNear key _ _) => ∀ part, key ≠ config.key ⟨domain, part⟩
  | acquire d | release d => d ≠ domain
  | _ => True

namespace Cache

variable {κ ρ ε α : Type} {config : CacheConfig} {domain : Domain} {slot : Slot}

/-- An access to the key of another domain avoids the domain. -/
theorem avoids_access (apart : slot.domain ≠ domain) {step : StorageStep}
    (own : step.key? = some (config.key slot)) :
    (Move.access step : Move κ).Avoids config domain := by
  cases step with
  | writeNear key text since =>
    intro part same
    have keys : config.key slot = config.key ⟨domain, part⟩ := (Option.some.inj own).symm.trans same
    exact apart (congrArg Slot.domain (config.key_injective keys))
  | _ => trivial

/-- A call of one domain avoids every other domain. -/
theorem avoids_getOrProduce (apart : slot.domain ≠ domain) (codec : Codec α) (request : κ) :
    (getOrProduce config codec slot request : Program κ (Except ε α) (Ending (Except ε α))).Only
      (Move.Avoids config domain) :=
  only_getOrProduce (fun _ => avoids_access apart) codec trivial apart apart

end Cache

end ChainActivity
