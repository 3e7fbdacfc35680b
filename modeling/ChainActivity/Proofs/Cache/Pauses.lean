import ChainActivity.Cache.Connection
import Mathlib.Algebra.Group.Nat.Defs
import Mathlib.Data.UInt

/-!
# Pauses between attempts to connect

The pause before an attempt is the first pause, doubled for each earlier attempt up to a
number of doublings, and cut at a limit.  It is cut after it has been formed: a pause that
does not fit into sixty-four bits breaks the call off, however low the limit is.

## Main definitions

* `ConnectionConfig.fullPause` — the pause before an attempt as a number, without a limit.

## Main statements

* `ConnectionConfig.toNat_of_backoff`, `ConnectionConfig.backoff_eq_broken_iff` — a pause is the
  full one, cut at the limit, and there is one exactly if the full pause fits.
* `ConnectionConfig.fullPause_mono` — the full pauses never become shorter.
* `ConnectionConfig.backoff_capped` — no pause passes the limit or is shorter than an earlier
  one; when there are pauses before all attempts.
* `ConnectionConfig.backoff_not_capped` — settings without a pause before some attempt.
-/

namespace ChainActivity.ConnectionConfig

/-- The pause before an attempt as a number: the first pause, doubled for each earlier
attempt, ten times at most. -/
def fullPause (c : ConnectionConfig) (attempt : UInt32) : Nat :=
  c.initialBackoff.toNat * 2 ^ min attempt.toNat 10

/-- The call cuts the full pause at the limit, if it fits. -/
theorem backoff_eq (c : ConnectionConfig) (attempt : UInt32) :
    c.backoff attempt =
      if c.fullPause attempt < UInt64.size then
        .value (min (UInt64.ofNat (c.fullPause attempt)) c.maxBackoff)
      else .broken := by
  have doublings : (min attempt maxDoublings).toNat = min attempt.toNat 10 :=
    UInt32.toNat_min attempt maxDoublings
  rw [backoff, doublings, Nat.one_shiftLeft]
  rfl

/-- A pause is the full one, cut at the limit. -/
theorem toNat_of_backoff {c : ConnectionConfig} {attempt : UInt32} {pause : UInt64}
    (waits : c.backoff attempt = .value pause) :
    pause.toNat = min (c.fullPause attempt) c.maxBackoff.toNat := by
  rw [backoff_eq] at waits
  split at waits
  · next fits =>
    obtain rfl := Ending.value.inj waits
    rw [UInt64.toNat_min, UInt64.toNat_ofNat_of_lt' fits]
  · cases waits

/-- There is no pause exactly if the full one does not fit. -/
theorem backoff_eq_broken_iff (c : ConnectionConfig) (attempt : UInt32) :
    c.backoff attempt = .broken ↔ 2 ^ 64 ≤ c.fullPause attempt := by
  rw [backoff_eq]
  split
  · next fits => exact iff_of_false nofun (Nat.not_le.mpr fits)
  · next large => exact iff_of_true rfl (Nat.not_lt.mp large)

/-- The full pauses never become shorter. -/
theorem fullPause_mono (c : ConnectionConfig) {attempt later : UInt32} (order : attempt ≤ later) :
    c.fullPause attempt ≤ c.fullPause later := by
  have numbers : attempt.toNat ≤ later.toNat := UInt32.le_iff_toNat_le.mp order
  apply Nat.mul_le_mul_left
  apply Nat.pow_le_pow_right (by decide)
  omega

/-- From the tenth attempt on nothing is doubled any more. -/
theorem fullPause_le (c : ConnectionConfig) (attempt : UInt32) :
    c.fullPause attempt ≤ c.fullPause 10 := by
  apply Nat.mul_le_mul_left
  exact Nat.pow_le_pow_right (by decide) (Nat.min_le_right ..)

/-- **No pause passes the limit.**  A pause is the full one, cut at the limit, and no pause is
shorter than an earlier one.  There is no pause exactly if the full one does not fit into
sixty-four bits; then there is none before any later attempt, and this happens before some
attempt exactly if ten doublings are too many. -/
theorem backoff_capped (c : ConnectionConfig) :
    (∀ attempt pause, c.backoff attempt = .value pause →
      pause.toNat = min (c.fullPause attempt) c.maxBackoff.toNat ∧ pause ≤ c.maxBackoff) ∧
    (∀ attempt later pause longer, attempt ≤ later → c.backoff attempt = .value pause →
      c.backoff later = .value longer → pause ≤ longer) ∧
    (∀ attempt, c.backoff attempt = .broken ↔ 2 ^ 64 ≤ c.fullPause attempt) ∧
    (∀ attempt later, attempt ≤ later → c.backoff attempt = .broken → c.backoff later = .broken) ∧
    ((∃ attempt, c.backoff attempt = .broken) ↔ 2 ^ 54 ≤ c.initialBackoff.toNat) := by
  refine ⟨?_, ?_, c.backoff_eq_broken_iff, ?_, ?_⟩
  · intro attempt pause waits
    have cut := toNat_of_backoff waits
    refine ⟨cut, ?_⟩
    rw [UInt64.le_iff_toNat_le, cut]
    exact Nat.min_le_right ..
  · intro attempt later pause longer order waits waitsLonger
    have grows := c.fullPause_mono order
    rw [UInt64.le_iff_toNat_le, toNat_of_backoff waits, toNat_of_backoff waitsLonger]
    omega
  · intro attempt later order ended
    rw [backoff_eq_broken_iff] at ended ⊢
    exact ended.trans (c.fullPause_mono order)
  · have doubled : c.fullPause 10 = c.initialBackoff.toNat * 2 ^ 10 := rfl
    constructor
    · rintro ⟨attempt, ended⟩
      have large := ((c.backoff_eq_broken_iff attempt).mp ended).trans (c.fullPause_le attempt)
      omega
    · intro large
      exact ⟨10, (c.backoff_eq_broken_iff 10).mpr (by omega)⟩

/-- The largest first pause that is a power of two and fits: pauses of almost all words. -/
theorem backoff_capped_of_large_words :
    let c : ConnectionConfig := { initialBackoff := .ofNat (2 ^ 53), maxBackoff := -1 }
    ∃ pause longer, (9 : UInt32) ≤ 10 ∧ c.backoff 9 = .value pause ∧
      c.backoff 10 = .value longer ∧ pause ≤ longer ∧ longer.toNat = 2 ^ 63 := by
  intro c
  obtain ⟨cut, grows, -⟩ := backoff_capped c
  have order : (9 : UInt32) ≤ 10 := by decide
  have earlier : c.backoff 9 = .value (.ofNat (2 ^ 62)) := by decide +kernel
  have later : c.backoff 10 = .value (.ofNat (2 ^ 63)) := by decide +kernel
  exact ⟨_, _, order, earlier, later, grows 9 10 _ _ order earlier later,
    (cut 10 _ later).1.trans (by decide +kernel)⟩

/-- With twice that first pause there is no pause before the tenth attempt, which should be the
limit as the one before it is. -/
theorem backoff_not_capped :
    let c : ConnectionConfig := { initialBackoff := .ofNat (2 ^ 54) }
    c.backoff 9 = .value c.maxBackoff ∧
      min (c.fullPause 10) c.maxBackoff.toNat = c.maxBackoff.toNat ∧
      ¬ ∃ pause, c.backoff 10 = .value pause ∧
        pause.toNat = min (c.fullPause 10) c.maxBackoff.toNat := by
  intro c
  have ended : c.backoff 10 = .broken := by decide +kernel
  refine ⟨by decide +kernel, by decide +kernel, ?_⟩
  rintro ⟨pause, waits, -⟩
  exact nomatch ended.symm.trans waits

end ChainActivity.ConnectionConfig
