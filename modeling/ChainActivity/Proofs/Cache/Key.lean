import ChainActivity.Cache.Policy
import Mathlib.Logic.Function.Basic
import Mathlib.Data.List.TakeWhile

/-!
# Keys of slots

Under one configuration different slots have different keys, whatever characters their
parts contain.

## Main statements

* `Domain.name_injective`, `Domain.isUnmarked_of_mem_name` — the names of domains.
* `CacheConfig.key_injective` — a key is the key of one slot only.

## Design notes

The parts of a slot are arbitrary texts, so a key cannot be cut at every colon.  It is
enough that the name of a domain has none: behind the name a key either ends or goes on
with a colon, and the rest is the part as it is.
-/

namespace ChainActivity

namespace Domain

/-- The name of a domain contains no colon. -/
theorem isUnmarked_of_mem_name (d : Domain) : ∀ c ∈ d.name.toList, decide (c ≠ ':') = true := by
  have unmarked : (d.name.toList.all fun c => decide (c ≠ ':')) = true := by cases d <;> rfl
  exact List.all_eq_true.mp unmarked

/-- Different domains have different names. -/
theorem name_injective : Function.Injective name := by
  intro d e same
  cases d <;> cases e <;> first | rfl | exact absurd same (by decide)

end Domain

namespace Slot

/-- The characters of a key behind the name of the domain. -/
def suffix (slot : Slot) : List Char :=
  match slot.part with
  | none => []
  | some part => ':' :: part.toList

/-- A slot is its domain and what stands behind it. -/
theorem eq_of_suffix {s t : Slot} (domains : s.domain = t.domain) (suffixes : s.suffix = t.suffix) :
    s = t := by
  obtain ⟨d, part⟩ := s
  obtain ⟨e, other⟩ := t
  obtain rfl : d = e := domains
  cases part with
  | none =>
    cases other with
    | none => rfl
    | some q => exact absurd suffixes (by simp [suffix])
  | some p =>
    cases other with
    | none => exact absurd suffixes (by simp [suffix])
    | some q =>
      have same : p = q := String.toList_inj.mp (List.cons.inj suffixes).2
      rw [same]

/-- Up to the first colon there is the name of the domain. -/
theorem takeWhile_name_suffix (slot : Slot) :
    (slot.domain.name.toList ++ slot.suffix).takeWhile (fun c => decide (c ≠ ':')) =
      slot.domain.name.toList := by
  rw [List.takeWhile_append_of_pos (Domain.isUnmarked_of_mem_name slot.domain)]
  have nothing : slot.suffix.takeWhile (fun c => decide (c ≠ ':')) = [] := by
    rw [suffix]
    cases slot.part <;> simp
  rw [nothing, List.append_nil]

end Slot

namespace CacheConfig

/-- The characters of a key. -/
theorem toList_key (c : CacheConfig) (slot : Slot) :
    (c.key slot).toList =
      c.space.toList ++ ':' :: (slot.domain.name.toList ++ slot.suffix) := by
  rw [key, Slot.suffix]
  cases slot.part <;> simp

/-- A key is the key of one slot only. -/
theorem key_injective (c : CacheConfig) : Function.Injective c.key := by
  intro s t same
  have characters : c.space.toList ++ ':' :: (s.domain.name.toList ++ s.suffix) =
      c.space.toList ++ ':' :: (t.domain.name.toList ++ t.suffix) := by
    rw [← toList_key, ← toList_key, same]
  have behind : s.domain.name.toList ++ s.suffix = t.domain.name.toList ++ t.suffix :=
    (List.cons.inj (List.append_cancel_left characters)).2
  have names : s.domain.name.toList = t.domain.name.toList := by
    rw [← s.takeWhile_name_suffix, behind, t.takeWhile_name_suffix]
  have domains : s.domain = t.domain := Domain.name_injective (String.toList_inj.mp names)
  -- behind equal names there may be colons, but nothing is left to cut
  rw [names] at behind
  exact Slot.eq_of_suffix domains (List.append_cancel_left behind)

end CacheConfig

end ChainActivity
