import ChainActivity.Cache.Codec
import ChainActivity.Cache.Program

/-!
# The cache

Values are kept in two tiers: one in the process, and a durable one that may be
shared.  Reading looks into the near tier first and copies what it finds in the
durable one; writing goes to both.

## Main definitions

* `Cache.get`, `Cache.peek` — the value of a slot, within its lifetime or of any age.
* `Cache.set` — stores a value.
* `Cache.getOrProduce` — the value of a slot, or a produced one that is then stored.
* `Cache.clear` — empties the durable tier.

## Design notes

A failing durable tier is no error of the cache; only `clear` reports it.  A copy from
the durable tier is backdated, so that both tiers expire together.

A near entry that is young enough decides: if it cannot be read as the wanted type,
the durable tier is not asked.

A call that the durable tier breaks off is broken off itself.  It gives back a lock that
it has all the same.
-/

namespace ChainActivity.Cache

variable {κ ρ ε α : Type}

/-- The moment since which a copy counts as stored: a value that is still kept for
`remaining` of its lifetime has been stored for the rest of it.  If that moment is not
known or cannot be named, the copy is new. -/
def backdated (now : Instant) (lifetime : Nat) (remaining : Option Nat) : Instant :=
  (remaining.bind fun r => now.before? (lifetime - r)).getD now

/-- Whether a near entry may be used, if entries up to some age may. -/
def isUsable (now : Instant) (maxAge : Option Nat) (entry : LocalEntry) : Bool :=
  match maxAge with
  | none => true
  | some age => decide (now - entry.storedAt < age)

/-- The durable value of a slot, which is copied into the near tier. -/
def fetch (config : CacheConfig) (codec : Codec α) (slot : Slot) : Program κ ρ (Option α) := do
  let key := config.key slot
  match ← Program.access (.durableGet key) with
  | (now, .ok (some text)) =>
    match codec.decode text with
    | none => pure none
    | some value =>
      let (_, answer) ← Program.access (.durableTtl key)
      let since := backdated now (config.lifetime slot.domain) (answer.toOption.getD none)
      let _ ← Program.access (.writeNear key text (some since))
      pure (some value)
  | (_, _) => pure none

/-- The value of a slot, where near entries up to some age are used. -/
def lookup (config : CacheConfig) (codec : Codec α) (slot : Slot) (maxAge : Option Nat) :
    Program κ ρ (Option α) := do
  match ← Program.access (.readNear (config.key slot)) with
  | (now, some entry) =>
    if isUsable now maxAge entry then pure (codec.decode entry.text)
    else fetch config codec slot
  | (_, none) => fetch config codec slot

/-- The value of a slot within its lifetime. -/
def get (config : CacheConfig) (codec : Codec α) (slot : Slot) : Program κ ρ (Option α) :=
  lookup config codec slot (some (config.lifetime slot.domain))

/-- The value of a slot; a near entry is used whatever its age. -/
def peek (config : CacheConfig) (codec : Codec α) (slot : Slot) : Program κ ρ (Option α) :=
  lookup config codec slot none

/-- Stores a value in both tiers.  Only a value that cannot be written is an error. -/
def set (config : CacheConfig) (codec : Codec α) (slot : Slot) (value : α) :
    Program κ ρ (Ending (Except CacheError Unit)) := do
  match codec.encode value with
  | .error reason => pure (.value (.error (.serialization reason)))
  | .ok text =>
    let key := config.key slot
    let _ ← Program.access (.writeNear key text none)
    let (_, ending) ← Program.access (.durableSet key text (config.lifetime slot.domain))
    pure (ending.map fun _ => .ok ())

/-- The value of a slot; or, if there is none, what the producer replies, which is then
stored if it is a value.  A value that cannot be written is returned all the same. -/
def produceIfMissing (config : CacheConfig) (codec : Codec α) (slot : Slot) (request : κ) :
    Program κ (Except ε α) (Ending (Except ε α)) := do
  match ← get config codec slot with
  | some value => pure (.value (.ok value))
  | none =>
    match ← Program.ask request with
    | .error e => pure (.value (.error e))
    | .ok value =>
      let stored ← set config codec slot value
      pure (stored.map fun _ => .ok value)

/-- The value of a slot, produced if it is missing.  In an exclusive domain this
happens under the lock of the domain. -/
def getOrProduce (config : CacheConfig) (codec : Codec α) (slot : Slot) (request : κ) :
    Program κ (Except ε α) (Ending (Except ε α)) := do
  if config.isExclusive slot.domain then
    Program.lock slot.domain
    let result ← produceIfMissing config codec slot request
    Program.unlock slot.domain
    pure result
  else produceIfMissing config codec slot request

/-- Empties the durable tier; the near one is left to expire. -/
def clear : Program κ ρ (Except CacheError Unit) := do
  let (_, answer) ← Program.access .durableFlush
  pure answer

end ChainActivity.Cache
