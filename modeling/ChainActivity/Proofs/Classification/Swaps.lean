import ChainActivity.Proofs.Classification.TwoLookups
import ChainActivity.Proofs.Token.Arithmetic
import Mathlib.Data.List.Induction

/-!
# Swaps, less what comes back

A swap sells an amount and gets outputs for it.  Outputs of the sold token are taken from
what was sold, and the first output of another token is what was bought.

## Main definitions

* `TokenAmount.takenWithin` — the amounts that can be taken, in order, from some units.
* `TokenAmount.returned`, `TokenAmount.isOther` — outputs of the sold token, and of others.
* `Viewpoint.Netted` — what some outputs make of the sold amount.

## Main statements

* `TokenAmount.takenWithin_eq_self` — all amounts are taken if there is enough for them.
* `Viewpoint.Netted.step` — what one more output does.
* `Viewpoint.netted_netSwap` — what a swap is left with, and what it bought.

## Design notes

An output that is more than is left is passed over, and a later and smaller one may still be
taken.  So the outputs that are taken are not the first ones, and which they are depends on
their order; `takenWithin` says which, and that the order does not matter if all fit.

Nothing marks that something was bought but the token of the amount: an amount without a token
is taken for none.  An output with the empty identifier may therefore stand where nothing was
bought, and is replaced by the next output of another token.
-/

namespace ChainActivity

/-! ### Amounts that are taken in order -/

namespace TokenAmount

/-- The amounts that can be taken from a number of units, one after the other: each is taken
if it fits in what those before it have left, and passed over otherwise. -/
def takenWithin (limit : Nat) (amounts : List TokenAmount) : List TokenAmount :=
  amounts.foldl
    (fun taken a => if total taken + a.units.toNat ≤ limit then taken ++ [a] else taken) []

variable {limit : Nat} {amounts : List TokenAmount} {a : TokenAmount}

theorem takenWithin_concat_of_le
    (fits : total (takenWithin limit amounts) + a.units.toNat ≤ limit) :
    takenWithin limit (amounts ++ [a]) = takenWithin limit amounts ++ [a] := by
  unfold takenWithin at fits ⊢
  rw [List.foldl_append, List.foldl_cons, List.foldl_nil, if_pos fits]

theorem takenWithin_concat_of_lt
    (large : limit < total (takenWithin limit amounts) + a.units.toNat) :
    takenWithin limit (amounts ++ [a]) = takenWithin limit amounts := by
  unfold takenWithin at large ⊢
  rw [List.foldl_append, List.foldl_cons, List.foldl_nil, if_neg (Nat.not_le.mpr large)]

/-- What is taken stands in the order in which it was given. -/
theorem takenWithin_sublist (limit : Nat) (amounts : List TokenAmount) :
    (takenWithin limit amounts).Sublist amounts := by
  induction amounts using List.reverseRecOn with
  | nil => exact .slnil
  | append_singleton amounts a ih =>
    by_cases fits : total (takenWithin limit amounts) + a.units.toNat ≤ limit
    · rw [takenWithin_concat_of_le fits]
      exact ih.append (List.Sublist.refl [a])
    · rw [takenWithin_concat_of_lt (Nat.lt_of_not_le fits)]
      exact ih.trans (List.sublist_append_left amounts [a])

/-- Everything is taken if there is enough for it. -/
theorem takenWithin_eq_self (enough : total amounts ≤ limit) :
    takenWithin limit amounts = amounts := by
  induction amounts using List.reverseRecOn with
  | nil => rfl
  | append_singleton amounts a ih =>
    rw [total_concat] at enough
    have before : takenWithin limit amounts = amounts := ih (by omega)
    have fits : total (takenWithin limit amounts) + a.units.toNat ≤ limit := by
      rw [before]
      exact enough
    rw [takenWithin_concat_of_le fits, before]

/-- Of seven, five and three units, seven and three can be taken from ten; of the same in
another order, five and three. -/
example :
    let units (n : Fin 8) : TokenAmount := of ⟨n, Nat.lt_trans n.isLt (by decide)⟩ 0 "T"
    ((takenWithin 10 [units 7, units 5, units 3]).map fun a => a.units.toNat) = [7, 3] ∧
      ((takenWithin 10 [units 5, units 7, units 3]).map fun a => a.units.toNat) = [5, 3] := by
  decide

/-- The outputs that are of the sold token. -/
def returned (sold : TokenAmount) (outputs : List TokenAmount) : List TokenAmount :=
  outputs.filter fun output => output.token = sold.token

/-- Whether an output is of another token than the sold one.  The empty identifier names no
token. -/
def isOther (sold output : TokenAmount) : Bool :=
  output.token ≠ "" && output.token ≠ sold.token

theorem isOther_iff {sold output : TokenAmount} :
    isOther sold output = true ↔ output.token ≠ "" ∧ output.token ≠ sold.token := by
  simp [isOther]

theorem isOther_eq_false_iff {sold output : TokenAmount} :
    isOther sold output = false ↔ output.token = "" ∨ output.token = sold.token := by
  rw [← Bool.not_eq_true, isOther_iff]
  tauto

/-- An output that is not of the sold token is of another token, unless it is none. -/
theorem isOther_of_ne {sold output : TokenAmount} (other : output.token ≠ sold.token) :
    isOther sold output = !output.isAbsent := by
  simp [isOther, isAbsent, other]

end TokenAmount

/-! ### Netting -/

namespace Viewpoint

open TokenAmount (total takenWithin returned isOther)

/-- What some outputs make of the sold amount: the part that is left of it, and the amount
that was bought. -/
structure Netted (sold : TokenAmount) (outputs : List TokenAmount)
    (balance : TokenAmount × TokenAmount) : Prop where
  token : balance.1.token = sold.token
  decimals : balance.1.decimals = sold.decimals
  /-- What is left and what was taken are what was sold. -/
  units : balance.1.units.toNat + total (takenWithin sold.units.toNat (returned sold outputs)) =
    sold.units.toNat
  /-- The first output of another token was bought, or none if there is no such output. -/
  search : outputs.find? (isOther sold) = if balance.2.isAbsent then none else some balance.2

variable {sold output : TokenAmount} {outputs : List TokenAmount}
  {balance : TokenAmount × TokenAmount}

theorem Netted.start (sold : TokenAmount) : Netted sold [] (sold, .absent) where
  token := rfl
  decimals := rfl
  units := rfl
  search := rfl

/-- An output of the sold token is taken from what is left, if it is not too much. -/
theorem Netted.step_returned (netted : Netted sold outputs balance)
    (same : output.token = sold.token) :
    Netted sold (outputs ++ [output]) (balance.1.sub output, balance.2) := by
  have back : returned sold (outputs ++ [output]) = returned sold outputs ++ [output] := by
    simp [returned, same]
  have passed : isOther sold output = false := TokenAmount.isOther_eq_false_iff.mpr (.inr same)
  have left := netted.units
  refine ⟨?_, ?_, ?_, ?_⟩
  · rw [TokenAmount.token_sub, netted.token]
  · rw [TokenAmount.decimals_sub, netted.decimals]
  · show (balance.1.sub output).units.toNat + _ = _
    rw [back]
    by_cases fits : output.units.toNat ≤ balance.1.units.toNat
    · have taken := TokenAmount.sub_of_le (netted.token.trans same.symm) fits
      rw [TokenAmount.takenWithin_concat_of_le (by omega), TokenAmount.total_concat]
      omega
    · rw [TokenAmount.sub_of_lt (Nat.lt_of_not_le fits),
        TokenAmount.takenWithin_concat_of_lt (by omega), left]
  · rw [List.find?_append, List.find?_singleton, passed, netted.search]
    simp

/-- An output of another token, or of none, is bought if nothing was bought before. -/
theorem Netted.step_other (netted : Netted sold outputs balance)
    (other : output.token ≠ sold.token) :
    Netted sold (outputs ++ [output])
      (balance.1, if balance.2.isAbsent then output else balance.2) := by
  have back : returned sold (outputs ++ [output]) = returned sold outputs := by
    simp [returned, other]
  refine ⟨netted.token, netted.decimals, back ▸ netted.units, ?_⟩
  rw [List.find?_append, List.find?_singleton, TokenAmount.isOther_of_ne other, netted.search]
  cases before : balance.2.isAbsent with
  | true => cases now : output.isAbsent <;> simp [now]
  | false => simp [before]

/-- One more output. -/
theorem Netted.step (netted : Netted sold outputs balance) (output : TokenAmount) :
    Netted sold (outputs ++ [output]) (netStep sold.token balance output) := by
  unfold netStep
  by_cases same : output.token = sold.token
  · rw [if_pos same]
    exact netted.step_returned same
  · have other := netted.step_other same
    rw [if_neg same]
    split at other
    · next absent => rwa [if_pos absent]
    · next present => rwa [if_neg present]

/-- All outputs of a swap. -/
theorem netted_netSwap (sold : TokenAmount) (outputs : List TokenAmount) :
    Netted sold outputs (netSwap sold outputs) := by
  rw [netSwap_eq]
  induction outputs using List.reverseRecOn with
  | nil => exact Netted.start sold
  | append_singleton outputs output ih =>
    rw [List.foldl_append]
    exact ih.step output

end Viewpoint

/-- A swap is left with an amount of the sold token, with its decimal places and never with
more than was sold.  If no more came back than was sold, all of it is taken off, in whatever
order it came; otherwise each output that still fits, in order.  What was bought is the first
output of another token, or no amount if there is none. -/
theorem netSwap_conserves (sold : TokenAmount) (outputs : List TokenAmount) :
    let rest := (Viewpoint.netSwap sold outputs).1
    let bought := (Viewpoint.netSwap sold outputs).2
    let refunds := outputs.filter fun output => output.token = sold.token
    let taken := TokenAmount.takenWithin sold.units.toNat refunds
    rest.token = sold.token ∧ rest.decimals = sold.decimals ∧
      rest.units.toNat ≤ sold.units.toNat ∧
      (TokenAmount.total refunds ≤ sold.units.toNat →
        rest.units.toNat + TokenAmount.total refunds = sold.units.toNat) ∧
      taken.Sublist refunds ∧ rest.units.toNat + TokenAmount.total taken = sold.units.toNat ∧
      (∀ front first back, outputs = front ++ first :: back →
        first.token ≠ "" → first.token ≠ sold.token →
        (∀ output ∈ front, output.token = "" ∨ output.token = sold.token) → bought = first) ∧
      ((∀ output ∈ outputs, output.token = "" ∨ output.token = sold.token) →
        bought.isAbsent = true) := by
  intro rest bought refunds taken
  have netted := Viewpoint.netted_netSwap sold outputs
  have whole : rest.units.toNat + TokenAmount.total taken = sold.units.toNat := netted.units
  refine ⟨netted.token, netted.decimals, by omega, ?_, ?_, whole, ?_, ?_⟩
  · intro enough
    have all : taken = refunds := TokenAmount.takenWithin_eq_self enough
    rwa [all] at whole
  · exact TokenAmount.takenWithin_sublist _ _
  · intro front first back split named other before
    have found : outputs.find? (TokenAmount.isOther sold) = some first := by
      rw [List.find?_eq_some_iff_append]
      refine ⟨TokenAmount.isOther_iff.mpr ⟨named, other⟩, front, back, split, ?_⟩
      intro output member
      rw [TokenAmount.isOther_eq_false_iff.mpr (before output member)]
      rfl
    rw [netted.search, Option.ite_none_left_eq_some] at found
    exact Option.some.inj found.2
  · intro mute
    have missing : outputs.find? (TokenAmount.isOther sold) = none := by
      rw [List.find?_eq_none]
      intro output member
      rw [TokenAmount.isOther_eq_false_iff.mpr (mute output member)]
      exact Bool.false_ne_true
    rw [netted.search, ite_eq_left_iff] at missing
    by_contra present
    exact nomatch missing present

end ChainActivity
