/-!
# Chunks of a list

## Main definitions

* `chunks` — a list cut into consecutive pieces of one length.
-/

namespace ChainActivity

variable {α : Type}

/-- Cuts a list into chunks of at most `size` members, for as many chunks as `fuel`
says. -/
def chunksFuel (size : Nat) : (fuel : Nat) → List α → List (List α)
  | 0, _ => []
  | _ + 1, [] => []
  | n + 1, x :: xs => (x :: xs).take size :: chunksFuel size n ((x :: xs).drop size)

/-- Cuts a list into consecutive chunks of `size` members; the last one may be shorter.
A size of zero counts as one. -/
def chunks (size : Nat) (xs : List α) : List (List α) :=
  chunksFuel (max size 1) xs.length xs

@[simp] theorem chunks_nil (size : Nat) : chunks size ([] : List α) = [] := rfl

/-- With fuel enough no member is lost, and the order stays. -/
theorem flatten_chunksFuel {size : Nat} (positive : 0 < size) {fuel : Nat} {xs : List α}
    (enough : xs.length ≤ fuel) : (chunksFuel size fuel xs).flatten = xs := by
  induction fuel generalizing xs with
  | zero =>
    have : xs = [] := List.length_eq_zero_iff.mp (by omega)
    subst this
    rfl
  | succ n ih =>
    cases xs with
    | nil => rfl
    | cons x xs =>
      have shorter : ((x :: xs).drop size).length ≤ n := by
        simp only [List.length_drop, List.length_cons] at *
        omega
      simp only [chunksFuel, List.flatten_cons, ih shorter, List.take_append_drop]

/-- The chunks of a list are the list again. -/
@[simp] theorem flatten_chunks (size : Nat) (xs : List α) : (chunks size xs).flatten = xs :=
  flatten_chunksFuel (by omega) (Nat.le_refl _)

end ChainActivity
