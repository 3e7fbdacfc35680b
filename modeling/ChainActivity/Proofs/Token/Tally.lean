import ChainActivity.Proofs.Token.Arithmetic

/-!
# Tallies

An amount to which amounts are added and from which amounts are taken, one after the other.
A change that is not possible is passed over, and the tally goes on from where it was.

## Main definitions

* `TokenAmount.Change` — one addition or subtraction, with `Change.exact`, the number of units
  that it should lead to.
* `Change.Fits` — whether a change is of the token of the tally and leads to an amount.
* `Change.Outcome` — what a change that is checked comes to.
* `TokenAmount.tally` — what changes make of an amount, in order.
* `TokenAmount.IsOf` — amounts of a token that are shown as they should be.

## Main statements

* `Change.outcome` — a checked change has no other outcomes.
* `IsOf.tally` — no changes make anything else of an amount of a token.
* `TokenAmount.tally_exact` — what a tally is, and what the next change does to it.
* `TokenAmount.units_foldl_sub_foldl_add` — when taking what was added leads back.

## Design notes

Additions that are passed over are not marked, so subtracting the same amounts takes them
all the same if the sum is large enough for them.  The amounts that were added after such an
amount are smaller than it, together.  So once it is taken, nothing makes up for it, and the
tally ends below the amount that it began with.
-/

namespace ChainActivity.TokenAmount

/-! ### Changes -/

/-- An amount that is added or taken. -/
inductive Change where
  | plus (amount : TokenAmount)
  | minus (amount : TokenAmount)

namespace Change

/-- The amount that is added or taken. -/
def amount : Change → TokenAmount
  | plus w | minus w => w

/-- The amount that a change makes, or why it makes none. -/
def check (v : TokenAmount) : Change → Except TokenError TokenAmount
  | plus w => v.checkedAdd w
  | minus w => v.checkedSub w

/-- The amount after a change. -/
def apply (v : TokenAmount) : Change → TokenAmount
  | plus w => v.add w
  | minus w => v.sub w

/-- The number of units that a change should lead to, be it an amount or not. -/
def exact (v : TokenAmount) : Change → Int
  | plus w => v.units.toNat + w.units.toNat
  | minus w => v.units.toNat - w.units.toNat

/-- Whether a change is of the token of an amount and leads to an amount. -/
structure Fits (v : TokenAmount) (change : Change) : Prop where
  token : v.token = change.amount.token
  nonneg : 0 ≤ change.exact v
  lt_bound : change.exact v < Amount.bound

/-- What a change that is checked comes to. -/
inductive Outcome (v : TokenAmount) (change : Change) : Except TokenError TokenAmount → Prop where
  | made {units : Amount} (fits : change.Fits v) (exact : (units.toNat : Int) = change.exact v) :
    Outcome v change (.ok (of units v.decimals v.token))
  | mismatch (other : v.token ≠ change.amount.token) :
    Outcome v change (.error (.mismatch v.token change.amount.token))
  | overflow (token : v.token = change.amount.token) (outside : ¬ change.Fits v) :
    Outcome v change (.error (.overflow v.token))

variable {v : TokenAmount} {change : Change}

theorem apply_eq (v : TokenAmount) (change : Change) :
    change.apply v = orElse (change.check v) v := by
  cases change <;> rfl

/-- Checking a change computes its exact number of units, if that is an amount. -/
theorem check_eq (v : TokenAmount) (change : Change) :
    ∃ op : Amount → Amount → Option Amount,
      change.check v = combine op v change.amount ∧
        ∀ units : Amount, op v.units change.amount.units = some units ↔
          (units.toNat : Int) = change.exact v := by
  cases change with
  | plus w =>
    refine ⟨Amount.add?, rfl, fun units => Amount.add?_eq_some_iff.trans ?_⟩
    simp only [amount, exact]
    omega
  | minus w =>
    refine ⟨Amount.sub?, rfl, fun units => Amount.sub?_eq_some_iff.trans ?_⟩
    simp only [amount, exact]
    omega

/-- A change makes the exact amount of the token, or it is of another token, or there is no
such amount. -/
theorem outcome (v : TokenAmount) (change : Change) : change.Outcome v (change.check v) := by
  obtain ⟨op, checked, computes⟩ := change.check_eq v
  rw [checked, combine]
  by_cases token : v.token = change.amount.token
  · rw [if_pos token]
    cases found : op v.units change.amount.units with
    | some units =>
      have exact := (computes units).mp found
      have small := units.isLt
      exact .made ⟨token, by omega, by omega⟩ exact
    | none =>
      refine .overflow token fun fits => ?_
      have small : (change.exact v).toNat < Amount.bound :=
        (Int.toNat_lt fits.nonneg).mpr fits.lt_bound
      have exact : op v.units change.amount.units = some ⟨_, small⟩ :=
        (computes ⟨_, small⟩).mpr (Int.toNat_of_nonneg fits.nonneg)
      exact nomatch found.symm.trans exact
  · rw [if_neg token]
    exact .mismatch token

end Change

/-- What changes make of an amount, in order. -/
def tally (v : TokenAmount) (changes : List Change) : TokenAmount :=
  changes.foldl (fun v change => change.apply v) v

/-- Amounts of a token with some decimal places, shown as these say. -/
structure IsOf (token : String) (decimals : UInt32) (v : TokenAmount) : Prop where
  token : v.token = token
  decimals : v.decimals = decimals
  scaled : v.scaled = Decimal.scale v.units.toNat v.decimals

theorem isOf_of (units : Amount) (decimals : UInt32) (token : String) :
    IsOf token decimals (of units decimals token) :=
  ⟨rfl, rfl, rfl⟩

namespace IsOf

variable {token : String} {decimals : UInt32} {v : TokenAmount}

/-- A change makes an amount of the same token with the same decimal places. -/
theorem apply (own : IsOf token decimals v) (change : Change) :
    IsOf token decimals (change.apply v) := by
  rw [change.apply_eq]
  have outcome := change.outcome v
  revert outcome
  generalize change.check v = result
  rintro (⟨fits, exact⟩ | other | ⟨same, outside⟩)
  · exact own.token ▸ own.decimals ▸ isOf_of _ v.decimals v.token
  · exact own
  · exact own

/-- So do any changes, one after the other. -/
theorem tally (own : IsOf token decimals v) (changes : List Change) :
    IsOf token decimals (v.tally changes) := by
  induction changes generalizing v with
  | nil => exact own
  | cons change rest ih => exact ih (own.apply change)

end IsOf

/-- After any changes of an amount it is one of its token, with its decimal places, and shown
as these say.  The next change makes exactly the sum or the difference if it is of the same
token and that number is an amount; otherwise it changes nothing, and checking it tells a
change of another token from a number that is no amount. -/
theorem tally_exact (units : Amount) (decimals : UInt32) (token : String)
    (changes : List Change) (change : Change) :
    let v := (of units decimals token).tally changes
    v.token = token ∧ v.decimals = decimals ∧ v.scaled = Decimal.scale v.units.toNat decimals ∧
    (change.Fits v → ∃ next : Amount, (next.toNat : Int) = change.exact v ∧
      change.check v = .ok (of next decimals token) ∧
      change.apply v = of next decimals token) ∧
    (¬ change.Fits v → change.apply v = v) ∧
    (v.token ≠ change.amount.token →
      change.check v = .error (.mismatch v.token change.amount.token)) ∧
    (v.token = change.amount.token → ¬ change.Fits v →
      change.check v = .error (.overflow v.token)) := by
  intro v
  have own : IsOf token decimals v := (isOf_of units decimals token).tally changes
  refine ⟨own.token, own.decimals, own.decimals ▸ own.scaled, ?_⟩
  rw [change.apply_eq]
  have outcome := change.outcome v
  revert outcome
  generalize change.check v = result
  intro outcome
  cases outcome with
  | @made next fits exact =>
    refine ⟨fun _ => ⟨next, exact, ?_, ?_⟩, fun unfit => absurd fits unfit,
      fun other => absurd fits.token other, fun _ unfit => absurd fits unfit⟩
    · rw [own.token, own.decimals]
    · rw [own.token, own.decimals, orElse]
  | mismatch other =>
    exact ⟨fun fits => absurd fits.token other, fun _ => rfl, fun _ => rfl,
      fun same => absurd same other⟩
  | overflow same outside =>
    exact ⟨fun fits => absurd fits outside, fun _ => rfl, fun other => absurd same other,
      fun _ _ => rfl⟩

/-- An amount of eight units, after two changes that were refused: eight can be taken from it,
nine cannot, and nothing of another token can be added. -/
theorem tally_exact_of_refused_changes :
    let v := (of ⟨5, by decide⟩ 2 "T").tally [.plus (of ⟨3, by decide⟩ 0 "T"),
      .minus (of ⟨100, by decide⟩ 0 "T"), .plus (of ⟨1, by decide⟩ 0 "U")]
    v.units.toNat = 8 ∧
    (∃ next : Amount, (next.toNat : Int) = 8 - 8 ∧
      (Change.minus (of ⟨8, by decide⟩ 0 "T")).apply v = of next 2 "T") ∧
    (Change.minus (of ⟨9, by decide⟩ 0 "T")).check v = .error (.overflow "T") ∧
    (Change.minus (of ⟨9, by decide⟩ 0 "T")).apply v = v ∧
    (Change.plus (of ⟨1, by decide⟩ 0 "U")).check v = .error (.mismatch "T" "U") := by
  intro v
  have exact := tally_exact ⟨5, by decide⟩ 2 "T" [.plus (of ⟨3, by decide⟩ 0 "T"),
    .minus (of ⟨100, by decide⟩ 0 "T"), .plus (of ⟨1, by decide⟩ 0 "U")]
  have fits : (Change.minus (of ⟨8, by decide⟩ 0 "T")).Fits v := ⟨rfl, by decide, by decide⟩
  have large : ¬ (Change.minus (of ⟨9, by decide⟩ 0 "T")).Fits v :=
    fun fits => absurd fits.nonneg (by decide)
  obtain ⟨next, units, -, made⟩ := (exact (.minus (of ⟨8, by decide⟩ 0 "T"))).2.2.2.1 fits
  obtain ⟨-, -, -, -, kept, -, refused⟩ := exact (.minus (of ⟨9, by decide⟩ 0 "T"))
  obtain ⟨-, -, -, -, -, foreign, -⟩ := exact (.plus (of ⟨1, by decide⟩ 0 "U"))
  exact ⟨rfl, ⟨next, units, made⟩, refused rfl large, kept large, foreign (by decide)⟩

/-! ### Taking what was added -/

section Returning

variable {v : TokenAmount} {ws : List TokenAmount}

theorem le_units_add (v w : TokenAmount) : v.units.toNat ≤ (v.add w).units.toNat := by
  unfold add
  cases added : checkedAdd v w with
  | error e => exact Nat.le_refl _
  | ok sum =>
    obtain ⟨-, units, found, rfl⟩ := combine_eq_ok_iff.mp added
    have whole : v.units.toNat + w.units.toNat = units.toNat := Amount.add?_eq_some_iff.mp found
    change v.units.toNat ≤ units.toNat
    omega

theorem units_sub_le (v w : TokenAmount) : (v.sub w).units.toNat ≤ v.units.toNat := by
  unfold sub
  cases taken : checkedSub v w with
  | error e => exact Nat.le_refl _
  | ok rest =>
    obtain ⟨-, units, found, rfl⟩ := combine_eq_ok_iff.mp taken
    have whole : units.toNat + w.units.toNat = v.units.toNat := Amount.sub?_eq_some_iff.mp found
    change units.toNat ≤ v.units.toNat
    omega

@[simp] theorem token_foldl_add (v : TokenAmount) (ws : List TokenAmount) :
    (ws.foldl add v).token = v.token := by
  induction ws generalizing v with
  | nil => rfl
  | cons w rest ih => exact (ih (v.add w)).trans (token_add v w)

theorem le_units_foldl_add (v : TokenAmount) (ws : List TokenAmount) :
    v.units.toNat ≤ (ws.foldl add v).units.toNat := by
  induction ws generalizing v with
  | nil => exact Nat.le_refl _
  | cons w rest ih => exact Nat.le_trans (le_units_add v w) (ih (v.add w))

theorem units_foldl_sub_le (v : TokenAmount) (ws : List TokenAmount) :
    (ws.foldl sub v).units.toNat ≤ v.units.toNat := by
  induction ws generalizing v with
  | nil => exact Nat.le_refl _
  | cons w rest ih => exact Nat.le_trans (ih (v.sub w)) (units_sub_le v w)

/-- What holds of every item of a list and those before it holds of the first one, and of
every other. -/
theorem forall_cons_eq_append_iff {α : Type} {P : List α → α → Prop} {first : α}
    {rest : List α} :
    (∀ before x after, first :: rest = before ++ x :: after → P before x) ↔
      P [] first ∧ ∀ before x after, rest = before ++ x :: after → P (first :: before) x := by
  constructor
  · intro all
    refine ⟨all [] first rest rfl, fun before x after split => ?_⟩
    exact all (first :: before) x after (by rw [split, List.cons_append])
  · rintro ⟨head, tail⟩ before x after split
    cases before with
    | nil =>
      obtain ⟨rfl, -⟩ := List.cons.inj split
      exact head
    | cons y before =>
      obtain ⟨rfl, behind⟩ := List.cons.inj split
      exact tail before x after behind

/-- Amounts are taken from one of two sums while they are added to the other.  If the two are
together what a first amount and the last sum are, then taking ends at that amount, or below
it if an amount is taken that was not added. -/
theorem units_foldl_sub_of_balance {sum left : TokenAmount} {start : Nat}
    (tokens : ∀ w ∈ ws, w.token = sum.token) (same : left.token = sum.token)
    (balance : left.units.toNat + sum.units.toNat = start + (ws.foldl add sum).units.toNat) :
    (ws.foldl sub left).units.toNat ≤ start ∧
      ((ws.foldl sub left).units.toNat = start ↔
        ∀ before w after, ws = before ++ w :: after →
          Amount.bound ≤ (before.foldl add sum).units.toNat + w.units.toNat →
          start + (ws.foldl add sum).units.toNat <
            (before.foldl add sum).units.toNat + w.units.toNat) := by
  induction ws generalizing sum left with
  | nil =>
    have ended : left.units.toNat = start := Nat.add_right_cancel balance
    refine ⟨Nat.le_of_eq ended, fun _ before w after split => ?_, fun _ => ended⟩
    exact absurd split (by simp)
  | cons w rest ih =>
    rw [List.forall_mem_cons] at tokens
    obtain ⟨token, others⟩ := tokens
    simp only [List.foldl_cons] at balance ⊢
    rw [forall_cons_eq_append_iff]
    have others : ∀ x ∈ rest, x.token = (sum.add w).token := by simpa using others
    have same' : (left.sub w).token = (sum.add w).token := by simpa using same
    by_cases fits : sum.units.toNat + w.units.toNat < Amount.bound
    · -- it is added, so there is enough to take it
      have added := add_of_lt token.symm fits
      have later := le_units_foldl_add (sum.add w) rest
      have taken := sub_of_le (same.trans token.symm) (w := w) (by omega)
      have onward := ih others same' (by omega)
      refine ⟨onward.1, onward.2.trans ⟨fun all => ⟨?_, all⟩, fun all => all.2⟩⟩
      intro large
      exact absurd fits (Nat.not_lt.mpr large)
    · have large : Amount.bound ≤ sum.units.toNat + w.units.toNat := Nat.le_of_not_lt fits
      have unchanged : sum.add w = sum := add_of_le large
      rw [unchanged] at others same' balance ⊢
      by_cases enough : w.units.toNat ≤ left.units.toNat
      · -- it is taken all the same, and what was added later does not make up for it
        have taken := sub_of_le (same.trans token.symm) enough
        have lower := units_foldl_sub_le (left.sub w) rest
        have small := (rest.foldl add sum).units.isLt
        refine ⟨by omega, fun back => absurd back (by omega), fun all => ?_⟩
        have beyond := all.1 large
        simp only [List.foldl_nil] at beyond
        omega
      · have kept : left.sub w = left := sub_of_lt (Nat.lt_of_not_le enough)
        rw [kept] at same' ⊢
        have onward := ih others same' balance
        refine ⟨onward.1, onward.2.trans ⟨fun all => ⟨fun _ => ?_, ?_⟩, fun all => ?_⟩⟩
        · simp only [List.foldl_nil]
          omega
        · simpa only [List.foldl_cons, unchanged] using all
        · simpa only [List.foldl_cons, unchanged] using all.2

/-- The sum of amounts is no more than all their units. -/
theorem units_foldl_add_le (v : TokenAmount) (ws : List TokenAmount) :
    (ws.foldl add v).units.toNat ≤ v.units.toNat + total ws := by
  induction ws generalizing v with
  | nil => exact Nat.le_refl _
  | cons w rest ih =>
    have onward := ih (v.add w)
    have step : (v.add w).units.toNat ≤ v.units.toNat + w.units.toNat := by
      unfold add
      cases added : checkedAdd v w with
      | error e => exact Nat.le_add_right _ _
      | ok sum =>
        obtain ⟨-, units, found, rfl⟩ := combine_eq_ok_iff.mp added
        exact Nat.le_of_eq (Amount.add?_eq_some_iff.mp found).symm
    rw [List.foldl_cons, total]
    omega

end Returning

/-- Amounts of one token are added to an amount, and the same amounts are taken from the sum
in the same order.  That leads to the first amount or below it.  It leads back exactly if
every amount that was too large to be added is also too large to be taken: more than what the
first amount and the sum at the end are beyond the sum at that point.  That is so if nothing
was too large to be added, and whenever the first amount is zero. -/
theorem units_foldl_sub_foldl_add (v : TokenAmount) (ws : List TokenAmount)
    (same : ∀ w ∈ ws, w.token = v.token) :
    let sum := ws.foldl add v
    let back := ws.foldl sub sum
    back.units.toNat ≤ v.units.toNat ∧
    (back.units = v.units ↔
      ∀ before w after, ws = before ++ w :: after →
        Amount.bound ≤ (before.foldl add v).units.toNat + w.units.toNat →
        v.units.toNat + sum.units.toNat < (before.foldl add v).units.toNat + w.units.toNat) ∧
    (v.units.toNat + total ws < Amount.bound → back.units = v.units) ∧
    (v.units = .zero → back.units = v.units) := by
  intro sum back
  have token : sum.token = v.token := token_foldl_add v ws
  have balance : sum.units.toNat + v.units.toNat = v.units.toNat + sum.units.toNat :=
    Nat.add_comm _ _
  obtain ⟨lower, exactly⟩ := units_foldl_sub_of_balance same token balance
  have exactly : back.units = v.units ↔ _ := Amount.ext_iff.trans exactly
  refine ⟨lower, exactly, fun small => ?_, fun nothing => ?_⟩
  · refine exactly.mpr fun before w after split large => ?_
    have partly := units_foldl_add_le v before
    rw [split, total_append, total] at small
    omega
  · refine exactly.mpr fun before w after split large => ?_
    have small := sum.units.isLt
    rw [nothing, Amount.toNat_zero, Nat.zero_add]
    exact Nat.lt_of_lt_of_le small large

/-- An amount that is too large both to be added and to be taken. -/
theorem units_foldl_sub_foldl_add_of_refused :
    let large : Amount := ⟨Amount.bound - 1, by decide⟩
    let v := of ⟨2, by decide⟩ 0 "T"
    let ws := [of ⟨3, by decide⟩ 0 "T", of large 0 "T", of ⟨4, by decide⟩ 0 "T"]
    (ws.foldl add v).units.toNat = 9 ∧ (ws.foldl sub (ws.foldl add v)).units = v.units ∧
      (ws.foldl sub (ws.foldl add (zero "T"))).units = .zero := by
  intro large v ws
  have same : ∀ w ∈ ws, w.token = "T" := by decide
  refine ⟨by decide, (units_foldl_sub_foldl_add v ws same).2.1.mpr ?_,
    (units_foldl_sub_foldl_add (zero "T") ws same).2.2.2 rfl⟩
  simp only [ws, forall_cons_eq_append_iff]
  refine ⟨by decide, by decide, by decide, fun before w after split => ?_⟩
  exact absurd split (by simp)

/-- A unit that does not fit is not added, and is taken all the same. -/
theorem units_foldl_sub_foldl_add_ne :
    let v := of ⟨Amount.bound - 1, by decide⟩ 0 "T"
    let ws := [of ⟨1, by decide⟩ 0 "T"]
    (∀ w ∈ ws, w.token = v.token) ∧ (ws.foldl sub (ws.foldl add v)).units ≠ v.units := by
  decide

end ChainActivity.TokenAmount
