/-!
# Moments, and calls that are broken off

A clock can name the moments of a limited range.  A moment outside of it has no name, and a
call that cannot do without the name is broken off.

## Main definitions

* `Instant`, `Instant.after?`, `Instant.before?` — moments, and the names of others.
* `Duration.seconds`, `Duration.milliseconds` — durations in the unit of the clock.
* `Ending` — how a call ends that may be broken off.

## Design notes

A moment is any whole number, so that moments can be compared whether they have names or
not.  Only `Instant.after?` and `Instant.before?` know about the range.
-/

namespace ChainActivity

/-! ### Durations -/

namespace Duration

/-- Milliseconds as nanoseconds. -/
def milliseconds (n : Nat) : Nat := n * 1000000

/-- Seconds as nanoseconds. -/
def seconds (n : Nat) : Nat := n * 1000000000

end Duration

/-! ### Moments -/

/-- A moment, in nanoseconds since a clock began to count. -/
abbrev Instant := Int

namespace Instant

/-- The end of the moments that can be named: whole seconds have sixty-four bits, one of
them for the sign. -/
def limit : Nat := Duration.seconds (1 <<< 63)

/-- The moment that lies a duration ahead, if it can be named. -/
def after? (t : Instant) (duration : Nat) : Option Instant :=
  if t + duration < limit then some (t + duration) else none

/-- The moment that lies a duration back, if it can be named. -/
def before? (t : Instant) (duration : Nat) : Option Instant :=
  if -limit ≤ t - duration then some (t - duration) else none

variable {t : Instant} {duration : Nat}

theorem after?_of_lt (namable : t + duration < limit) : t.after? duration = some (t + duration) :=
  if_pos namable

theorem after?_of_le (beyond : limit ≤ t + duration) : t.after? duration = none :=
  if_neg (Int.not_lt.mpr beyond)

theorem before?_of_le (namable : -limit ≤ t - duration) :
    t.before? duration = some (t - duration) :=
  if_pos namable

end Instant

/-! ### Endings -/

/-- How a call ends that may be broken off. -/
inductive Ending (α : Type) where
  | value (a : α)
  /-- It ends at once and has no value; what it has done so far stays done. -/
  | broken
  deriving DecidableEq, Repr

namespace Ending

variable {α β : Type}

/-- Turns the value into another. -/
def map (f : α → β) : Ending α → Ending β
  | value a => value (f a)
  | broken => broken

@[simp] theorem map_value (f : α → β) (a : α) : (value a).map f = value (f a) := rfl

@[simp] theorem map_broken (f : α → β) : (broken : Ending α).map f = broken := rfl

@[simp] theorem map_eq_broken_iff (f : α → β) (e : Ending α) : e.map f = broken ↔ e = broken := by
  cases e <;> simp

end Ending

end ChainActivity
