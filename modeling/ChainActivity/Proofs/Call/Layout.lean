import ChainActivity.Call.Parser
import Mathlib.Data.List.Forall2

/-!
# The layout of calls

The terms of a call stand at fixed positions, up to the function that it calls and the
arguments of that function.  Where the position of the function depends on a number of
payments, there are enough terms for all of them before any is read.

## Main definitions

* `Term.MeansAt` — the term at a position has a meaning.
* `Payment.IsReadAt`, `Invocation.IsReadAt` — what stands from a position on.
* `Call.IsReadFrom` — the call that terms are, by the layout of each kind of call.
* `Call.FindsTerms` — a reading that does not fail for want of a term.
* `Call.Announces` — terms that begin with a destination and a number of payments.
* `Call.positionBehind?` — the position behind the payments, computed in words.

## Main statements

* `Call.ofTerms_eq_ok_iff` — terms denote a call exactly if they are laid out as one.
* `Call.Announces.findsTerms` — enough terms for the payments are enough.
* `Call.ofText_of_announces` — a number of payments is refused, or all of them are read.

## Design notes

`IsReadFrom` has one constructor for each kind of call and does not mention how terms are
read one after the other, so that later proofs do not open `ofTerms`.  It speaks of calls
that are read.  That a call which is not read does not lack a term is a property of the
failure, which `FindsTerms` composes along the reading.
-/

namespace ChainActivity

/-! ### Readings that succeed -/

section Readings

variable {ε α β : Type} {f : α → Except ε β}

/-- A reading in two steps succeeds exactly if both do. -/
theorem bind_eq_ok_iff {x : Except ε α} {b : β} :
    (x >>= f) = .ok b ↔ ∃ a, x = .ok a ∧ f a = .ok b := by
  cases x with
  | error e => simp [bind, Except.bind]
  | ok a => simp [bind, Except.bind]

/-- Several readings succeed exactly if each of them does. -/
theorem mapM_eq_ok_iff {xs : List α} {ys : List β} :
    xs.mapM f = .ok ys ↔ List.Forall₂ (fun x y => f x = .ok y) xs ys := by
  induction xs generalizing ys with
  | nil => cases ys <;> simp [pure, Except.pure]
  | cons x xs ih =>
    rw [List.mapM_cons, bind_eq_ok_iff, List.forall₂_cons_left_iff]
    simp only [bind_eq_ok_iff, ih, pure, Except.pure, Except.ok.injEq, eq_comm (b := ys)]
    constructor
    · rintro ⟨y, first, rest, others, rfl⟩
      exact ⟨y, rest, first, others, rfl⟩
    · rintro ⟨y, rest, first, others, rfl⟩
      exact ⟨y, first, rest, others, rfl⟩

/-- Readings that are numbered give as many values, each by its number. -/
theorem mapM_range_eq_ok_iff {f : Nat → Except ε β} {n : Nat} {ys : List β} :
    (List.range n).mapM f = .ok ys ↔
      ys.length = n ∧ ∀ i (inside : i < ys.length), f i = .ok ys[i] := by
  rw [mapM_eq_ok_iff, List.forall₂_iff_get]
  simp only [List.length_range, List.get_eq_getElem, List.getElem_range]
  constructor
  · rintro ⟨same, all⟩
    exact ⟨same.symm, fun i inside => all i (same ▸ inside) inside⟩
  · rintro ⟨same, all⟩
    exact ⟨same.symm, fun i _ inside => all i inside⟩

end Readings

/-! ### What stands at a position -/

/-- Whether the term at a position has a meaning. -/
def Term.MeansAt {α : Type} (read : String → Except DecodeError α) (terms : List String)
    (index : Nat) (meaning : α) : Prop :=
  ∃ term, terms[index]? = some term ∧ read term = .ok meaning

/-- Whether three terms from a position on are a payment. -/
structure Payment.IsReadAt (terms : List String) (index : Nat) (p : Payment) : Prop where
  collection : Term.MeansAt Term.text terms index p.collection
  nonce : Term.MeansAt Term.word terms (index + 1) p.nonce
  amount : Term.MeansAt Term.amount terms (index + 2) p.amount

/-- What is called from a position on. -/
inductive Invocation.IsReadAt (terms : List String) (index : Nat) : Option Invocation → Prop
  /-- There is no such term, and nothing is called. -/
  | absent (behind : terms.length ≤ index) : IsReadAt terms index none
  /-- The term is empty, and nothing is called whatever stands behind it. -/
  | empty (here : terms[index]? = some "") : IsReadAt terms index none
  /-- The term is a function, and all that stands behind it are its arguments. -/
  | called {before args : List String} {term function : String}
    (cut : terms = before ++ term :: args) (position : before.length = index)
    (present : term ≠ "") (means : Term.text term = .ok function) :
    IsReadAt terms index (some ⟨function, args⟩)

namespace Call

variable {terms : List String} {index : Nat}

theorem field_eq_ok_iff {call term : String} :
    field call terms index = .ok term ↔ terms[index]? = some term := by
  rw [field]
  cases terms[index]? <;> simp

/-- A term is read exactly if it is there and has the meaning. -/
theorem bind_field_eq_ok_iff {α β : Type} {call : String} {read : String → Except DecodeError α}
    {make : α → Except DecodeError β} {b : β} :
    (field call terms index >>= fun term => read term >>= make) = .ok b ↔
      ∃ a, Term.MeansAt read terms index a ∧ make a = .ok b := by
  simp only [bind_eq_ok_iff, field_eq_ok_iff, Term.MeansAt]
  constructor
  · rintro ⟨term, here, a, means, made⟩
    exact ⟨a, ⟨term, here, means⟩, made⟩
  · rintro ⟨a, ⟨term, here, means⟩, made⟩
    exact ⟨term, here, a, means, made⟩

theorem paymentAt_eq_ok_iff {call : String} {p : Payment} :
    paymentAt call terms index = .ok p ↔ p.IsReadAt terms index := by
  simp only [paymentAt, bind_field_eq_ok_iff, Except.ok.injEq]
  constructor
  · rintro ⟨collection, here, nonce, next, amount, last, rfl⟩
    exact ⟨here, next, last⟩
  · rintro ⟨here, next, last⟩
    exact ⟨_, here, _, next, _, last, rfl⟩

theorem invocationAt_eq_ok_iff {called : Option Invocation} :
    invocationAt terms index = .ok called ↔ Invocation.IsReadAt terms index called := by
  rw [invocationAt]
  constructor
  · intro read
    split at read
    · next missing =>
      obtain rfl := Except.ok.inj read
      exact .absent (List.getElem?_eq_none_iff.mp missing)
    · next term here =>
      split at read
      · next empty =>
        obtain rfl := Except.ok.inj read
        exact .empty (empty ▸ here)
      · next present =>
        obtain ⟨function, means, rfl⟩ := by
          simpa only [bind_eq_ok_iff, Except.ok.injEq] using read
        obtain ⟨inside, rfl⟩ := List.getElem?_eq_some_iff.mp here
        have cut : terms = terms.take index ++ terms[index] :: terms.drop (index + 1) := by
          rw [List.getElem_cons_drop, List.take_append_drop]
        have position : (terms.take index).length = index := by
          rw [List.length_take, Nat.min_eq_left (Nat.le_of_lt inside)]
        exact .called cut position present means
  · intro laid
    cases laid with
    | absent behind => rw [List.getElem?_eq_none_iff.mpr behind]
    | empty here => simp only [here, if_true]
    | called cut position present means =>
      subst cut position
      simp [present, means, bind, Except.bind, List.drop_append]

/-! ### Layouts -/

/-- The call that terms are: which term says what of it. -/
inductive IsReadFrom (terms : List String) : Call → Prop
  /-- Token, amount, and perhaps a function. -/
  | transfer {token : String} {amount : Amount} {called : Option Invocation}
    (named : terms.headD "" = transferName) (means : Term.MeansAt Term.text terms 1 token)
    (counts : Term.MeansAt Term.amount terms 2 amount)
    (calls : Invocation.IsReadAt terms 3 called) :
    IsReadFrom terms (.transfer token amount called)
  /-- Payment, destination, and perhaps a function. -/
  | itemTransfer {payment : Payment} {destination : Address} {called : Option Invocation}
    (named : terms.headD "" = itemTransferName) (paid : payment.IsReadAt terms 1)
    (addressed : Term.MeansAt Term.address terms 4 destination)
    (calls : Invocation.IsReadAt terms 5 called) :
    IsReadFrom terms (.itemTransfer payment destination called)
  /-- Destination, number of payments, payments, and perhaps a function. -/
  | multiTransfer {destination : Address} {count : UInt64} {payments : List Payment}
    {called : Option Invocation} (named : terms.headD "" = multiTransferName)
    (addressed : Term.MeansAt Term.address terms 1 destination)
    (counted : Term.MeansAt Term.word terms 2 count) (all : payments.length = count.toNat)
    (paid : ∀ i (inside : i < payments.length), payments[i].IsReadAt terms (3 + 3 * i))
    (calls : Invocation.IsReadAt terms (3 + 3 * payments.length) called) :
    IsReadFrom terms (.multiTransfer destination payments called)
  /-- A name and arguments. -/
  | generic (other : terms.headD "" ∉ transferNames) :
    IsReadFrom terms (.generic ⟨terms.headD "", terms.drop 1⟩)

/-- There are terms for all payments that have been read. -/
theorem le_length_of_isReadAt {payments : List Payment} (three : 3 ≤ terms.length)
    (paid : ∀ i (inside : i < payments.length), payments[i].IsReadAt terms (3 + 3 * i)) :
    3 + 3 * payments.length ≤ terms.length := by
  rcases Nat.eq_zero_or_pos payments.length with none | some
  · omega
  · obtain ⟨term, last, -⟩ := (paid (payments.length - 1) (by omega)).amount
    obtain ⟨inside, -⟩ := List.getElem?_eq_some_iff.mp last
    omega

theorem readTransfer_eq_ok_iff {call : Call} :
    readTransfer terms = .ok call ↔
      ∃ token amount called, Term.MeansAt Term.text terms 1 token ∧
        Term.MeansAt Term.amount terms 2 amount ∧ Invocation.IsReadAt terms 3 called ∧
        transfer token amount called = call := by
  simp only [readTransfer, bind_field_eq_ok_iff]
  simp only [bind_eq_ok_iff, invocationAt_eq_ok_iff, Except.ok.injEq]
  constructor
  · rintro ⟨token, means, amount, counts, called, calls, rfl⟩
    exact ⟨token, amount, called, means, counts, calls, rfl⟩
  · rintro ⟨token, amount, called, means, counts, calls, rfl⟩
    exact ⟨token, means, amount, counts, called, calls, rfl⟩

theorem readItemTransfer_eq_ok_iff {call : Call} :
    readItemTransfer terms = .ok call ↔
      ∃ payment destination called, payment.IsReadAt terms 1 ∧
        Term.MeansAt Term.address terms 4 destination ∧ Invocation.IsReadAt terms 5 called ∧
        itemTransfer payment destination called = call := by
  rw [readItemTransfer, bind_eq_ok_iff]
  simp only [paymentAt_eq_ok_iff, bind_field_eq_ok_iff]
  simp only [bind_eq_ok_iff, invocationAt_eq_ok_iff, Except.ok.injEq]
  constructor
  · rintro ⟨payment, paid, destination, addressed, called, calls, rfl⟩
    exact ⟨payment, destination, called, paid, addressed, calls, rfl⟩
  · rintro ⟨payment, destination, called, paid, addressed, calls, rfl⟩
    exact ⟨payment, paid, destination, addressed, called, calls, rfl⟩

theorem readMultiTransfer_eq_ok_iff {call : Call} :
    readMultiTransfer terms = .ok call ↔
      ∃ destination count payments called, Term.MeansAt Term.address terms 1 destination ∧
        Term.MeansAt Term.word terms 2 count ∧ payments.length = count.toNat ∧
        (∀ i (inside : i < payments.length), payments[i].IsReadAt terms (3 + 3 * i)) ∧
        Invocation.IsReadAt terms (3 + 3 * payments.length) called ∧
        multiTransfer destination payments called = call := by
  simp only [readMultiTransfer, bind_field_eq_ok_iff]
  constructor
  · rintro ⟨destination, addressed, count, counted, read⟩
    split at read
    · cases read
    · simp only [bind_eq_ok_iff, mapM_range_eq_ok_iff, paymentAt_eq_ok_iff,
        invocationAt_eq_ok_iff, Except.ok.injEq] at read
      obtain ⟨payments, ⟨all, paid⟩, called, calls, rfl⟩ := read
      exact ⟨destination, count, payments, called, addressed, counted, all, paid, all ▸ calls, rfl⟩
  · rintro ⟨destination, count, payments, called, addressed, counted, all, paid, calls, rfl⟩
    refine ⟨destination, addressed, count, counted, ?_⟩
    obtain ⟨term, third, -⟩ := counted
    have three : 3 ≤ terms.length := (List.getElem?_eq_some_iff.mp third).1
    have enough := le_length_of_isReadAt three paid
    rw [if_neg (by omega)]
    simp only [bind_eq_ok_iff, mapM_range_eq_ok_iff, paymentAt_eq_ok_iff, invocationAt_eq_ok_iff,
      Except.ok.injEq]
    exact ⟨payments, ⟨all, paid⟩, called, all ▸ calls, rfl⟩

/-- **Terms denote a call exactly if they are laid out as one.** -/
theorem ofTerms_eq_ok_iff {call : Call} : ofTerms terms = .ok call ↔ IsReadFrom terms call := by
  rw [ofTerms]
  constructor
  · intro read
    split at read
    · next named =>
      obtain ⟨token, amount, called, means, counts, calls, rfl⟩ := readTransfer_eq_ok_iff.mp read
      exact .transfer named means counts calls
    · next plain =>
      split at read
      · next named =>
        obtain ⟨payment, destination, called, paid, addressed, calls, rfl⟩ :=
          readItemTransfer_eq_ok_iff.mp read
        exact .itemTransfer named paid addressed calls
      · next item =>
        split at read
        · next named =>
          obtain ⟨destination, count, payments, called, addressed, counted, all, paid, calls,
            rfl⟩ := readMultiTransfer_eq_ok_iff.mp read
          exact .multiTransfer named addressed counted all paid calls
        · next several =>
          obtain rfl := Except.ok.inj read
          refine .generic ?_
          rw [transferNames]
          simp only [List.mem_cons, List.not_mem_nil, plain, item, several, or_self,
            not_false_eq_true]
  · intro laid
    cases laid with
    | transfer named means counts calls =>
      rw [if_pos named]
      exact readTransfer_eq_ok_iff.mpr ⟨_, _, _, means, counts, calls, rfl⟩
    | itemTransfer named paid addressed calls =>
      rw [if_neg (by rw [named]; decide), if_pos named]
      exact readItemTransfer_eq_ok_iff.mpr ⟨_, _, _, paid, addressed, calls, rfl⟩
    | multiTransfer named addressed counted all paid calls =>
      rw [if_neg (by rw [named]; decide), if_neg (by rw [named]; decide), if_pos named]
      exact readMultiTransfer_eq_ok_iff.mpr
        ⟨_, _, _, _, addressed, counted, all, paid, calls, rfl⟩
    | generic other =>
      simp only [transferNames, List.mem_cons, List.not_mem_nil, or_false, not_or] at other
      obtain ⟨plain, item, several⟩ := other
      rw [if_neg plain, if_neg item, if_neg several]

/-! ### Readings that lack no term -/

/-- Whether a reading does not fail for want of a term. -/
def FindsTerms {α : Type} (read : Except DecodeError α) : Prop :=
  ∀ call index, read ≠ .error (.missingField call index)

section FindsTerms

variable {α β : Type}

theorem findsTerms_ok (a : α) : FindsTerms (.ok a) := nofun

/-- A reading in two steps lacks no term if neither step does. -/
theorem FindsTerms.bind {read : Except DecodeError α} {make : α → Except DecodeError β}
    (first : FindsTerms read) (second : ∀ a, FindsTerms (make a)) :
    FindsTerms (read >>= make) := by
  cases read with
  | error e =>
    intro call index failed
    cases failed
    exact first call index rfl
  | ok a => exact second a

/-- Nor do several readings. -/
theorem FindsTerms.mapM {f : α → Except DecodeError β} {xs : List α}
    (each : ∀ x ∈ xs, FindsTerms (f x)) : FindsTerms (xs.mapM f) := by
  induction xs with
  | nil => exact findsTerms_ok []
  | cons x xs ih =>
    rw [List.mapM_cons]
    refine (each x List.mem_cons_self).bind fun y => ?_
    refine (ih fun x' member => each x' (List.mem_cons_of_mem x member)).bind fun ys => ?_
    exact findsTerms_ok (y :: ys)

theorem findsTerms_field {call : String} (inside : index < terms.length) :
    FindsTerms (field call terms index) := by
  rw [field, List.getElem?_eq_getElem inside]
  exact findsTerms_ok _

end FindsTerms

/-! A term that is there may have no meaning, but it is not missing. -/

theorem findsTerms_bytes (term : String) : FindsTerms (Term.bytes term) := by
  intro call index failed
  rw [Term.bytes] at failed
  split at failed <;> cases failed

theorem findsTerms_text (term : String) : FindsTerms (Term.text term) := by
  refine (findsTerms_bytes term).bind fun bytes => ?_
  split
  · exact findsTerms_ok _
  · exact nofun

theorem findsTerms_word (term : String) : FindsTerms (Term.word term) := by
  rw [Term.word]
  split
  · exact findsTerms_ok _
  · split
    · exact findsTerms_ok _
    · exact nofun

theorem findsTerms_amount (term : String) : FindsTerms (Term.amount term) := by
  rw [Term.amount]
  split
  · exact findsTerms_ok _
  · exact nofun

/-- A payment finds its terms if the last of them is there. -/
theorem findsTerms_paymentAt {call : String} (inside : index + 2 < terms.length) :
    FindsTerms (paymentAt call terms index) := by
  refine (findsTerms_field (by omega)).bind fun first => ?_
  refine (findsTerms_text first).bind fun collection => ?_
  refine (findsTerms_field (by omega)).bind fun second => ?_
  refine (findsTerms_word second).bind fun nonce => ?_
  refine (findsTerms_field inside).bind fun third => ?_
  exact (findsTerms_amount third).bind fun amount => findsTerms_ok _

/-- A function need not be there. -/
theorem findsTerms_invocationAt (terms : List String) (index : Nat) :
    FindsTerms (invocationAt terms index) := by
  rw [invocationAt]
  split
  · exact findsTerms_ok _
  · next term _ =>
    split
    · exact findsTerms_ok _
    · exact (findsTerms_text term).bind fun function => findsTerms_ok _

/-! ### A number of payments -/

/-- Whether terms begin as a transfer of a number of payments to a destination. -/
structure Announces (terms : List String) (destination : Address) (count : UInt64) : Prop where
  name : terms.headD "" = multiTransferName
  destination : Term.MeansAt Term.address terms 1 destination
  count : Term.MeansAt Term.word terms 2 count

section Announces

variable {destination : Address} {count : UInt64}

theorem Announces.ofTerms_eq (announces : Announces terms destination count) :
    ofTerms terms = readMultiTransfer terms := by
  rw [ofTerms, if_neg (by rw [announces.name]; decide), if_neg (by rw [announces.name]; decide),
    if_pos announces.name]

/-- The number of payments is checked against the number of terms; then the payments are
read, and what stands behind them. -/
theorem Announces.readMultiTransfer_eq (announces : Announces terms destination count) :
    readMultiTransfer terms =
      if terms.length < 3 + 3 * count.toNat then
        .error (.missingField multiTransferName terms.length)
      else (do
        let payments ← (List.range count.toNat).mapM fun i =>
          paymentAt multiTransferName terms (3 + 3 * i)
        let called ← invocationAt terms (3 + 3 * count.toNat)
        .ok (.multiTransfer destination payments called)) := by
  obtain ⟨first, here, addressed⟩ := announces.destination
  obtain ⟨second, next, counted⟩ := announces.count
  have one : field multiTransferName terms 1 = .ok first := field_eq_ok_iff.mpr here
  have two : field multiTransferName terms 2 = .ok second := field_eq_ok_iff.mpr next
  rw [readMultiTransfer, one, two]
  simp only [bind, Except.bind, addressed, counted]

/-- Terms that are enough for the payments lack none. -/
theorem Announces.findsTerms (announces : Announces terms destination count)
    (enough : 3 + 3 * count.toNat ≤ terms.length) : FindsTerms (readMultiTransfer terms) := by
  rw [announces.readMultiTransfer_eq, if_neg (Nat.not_lt.mpr enough)]
  refine FindsTerms.bind (FindsTerms.mapM fun i member => ?_) fun payments => ?_
  · have inside : i < count.toNat := List.mem_range.mp member
    exact findsTerms_paymentAt (by omega)
  · exact (findsTerms_invocationAt terms _).bind fun called => findsTerms_ok _

/-- The call is read exactly if all payments are, and what stands behind them. -/
theorem Announces.ofTerms_eq_ok_iff (announces : Announces terms destination count) {call : Call} :
    ofTerms terms = .ok call ↔
      ∃ payments called, call = .multiTransfer destination payments called ∧
        payments.length = count.toNat ∧
        (∀ i (inside : i < payments.length), payments[i].IsReadAt terms (3 + 3 * i)) ∧
        Invocation.IsReadAt terms (3 + 3 * count.toNat) called := by
  obtain ⟨first, here, addressed⟩ := announces.destination
  obtain ⟨second, next, counted⟩ := announces.count
  rw [announces.ofTerms_eq, readMultiTransfer_eq_ok_iff]
  constructor
  · rintro ⟨destination', count', payments, called, ⟨first', here', addressed'⟩,
      ⟨second', next', counted'⟩, all, paid, calls, rfl⟩
    obtain rfl := Option.some.inj (here.symm.trans here')
    obtain rfl := Option.some.inj (next.symm.trans next')
    obtain rfl := Except.ok.inj (addressed.symm.trans addressed')
    obtain rfl := Except.ok.inj (counted.symm.trans counted')
    exact ⟨payments, called, rfl, all, paid, all ▸ calls⟩
  · rintro ⟨payments, called, rfl, all, paid, calls⟩
    exact ⟨destination, count, payments, called, ⟨first, here, addressed⟩,
      ⟨second, next, counted⟩, all, paid, all.symm ▸ calls, rfl⟩

end Announces

/-! ### Positions in words -/

/-- The position behind a number of payments, computed in words; none if it is no word. -/
def positionBehind? (count : UInt64) : Option UInt64 :=
  if count.toNat * 3 < UInt64.size then
    if (count * 3).toNat + 3 < UInt64.size then some (count * 3 + 3) else none
  else none

/-- A position that can be computed in words has not wrapped around. -/
theorem positionBehind?_eq (count : UInt64) :
    (positionBehind? count).map UInt64.toNat =
      if 3 + 3 * count.toNat < UInt64.size then some (3 + 3 * count.toNat) else none := by
  have size : UInt64.size = 2 ^ 64 := rfl
  have three : (3 : UInt64).toNat = 3 := rfl
  have product : count.toNat * 3 < UInt64.size → (count * 3).toNat = count.toNat * 3 := by
    intro small
    rw [UInt64.toNat_mul, three, Nat.mod_eq_of_lt (size ▸ small)]
  rw [positionBehind?]
  by_cases fits : 3 + 3 * count.toNat < UInt64.size
  · have small : count.toNat * 3 < UInt64.size := by omega
    have sum : (count * 3).toNat + 3 < UInt64.size := by rw [product small]; omega
    rw [if_pos small, if_pos sum, if_pos fits, Option.map_some, UInt64.toNat_add, three,
      Nat.mod_eq_of_lt (size ▸ sum), product small]
    congr 1
    omega
  · rw [if_neg fits]
    split
    · next small =>
      have large : ¬ (count * 3).toNat + 3 < UInt64.size := by rw [product small]; omega
      rw [if_neg large]
      rfl
    · rfl

/-- Among as many terms as a word can count, the position is found in words exactly if it
is not behind the last of them. -/
theorem exists_positionBehind?_iff {size : Nat} (countable : size < UInt64.size)
    (count : UInt64) :
    (∃ position, positionBehind? count = some position ∧ position.toNat ≤ size) ↔
      3 + 3 * count.toNat ≤ size := by
  have computed := positionBehind?_eq count
  constructor
  · rintro ⟨position, found, inside⟩
    rw [found] at computed
    split at computed
    · have same := Option.some.inj computed
      omega
    · cases computed
  · intro inside
    rw [if_pos (by omega), Option.map_eq_some_iff] at computed
    obtain ⟨position, found, same⟩ := computed
    exact ⟨position, found, by omega⟩

/-- **The layout of a transfer of several tokens is safe.**  If the text has too few terms
for the number of payments that it announces, that is reported with the number of terms.
Otherwise all terms of all payments are there, and no missing term is reported.  The call
is then the one whose payments, as many as announced, stand one after the other, three
terms each, and whose function is the term behind them, if there is one that is not empty,
with all terms behind it as arguments.  Computing the position of that term in words, and
refusing it if that overflows, refuses the same texts. -/
theorem ofText_of_announces {text : String} {destination : Address} {count : UInt64}
    (announces : Announces (Call.terms text) destination count) :
    let size := (Call.terms text).length
    let behind := 3 + 3 * count.toNat
    (size < behind → ofText text = .error (.missingField multiTransferName size)) ∧
      (behind ≤ size →
        (∀ i < count.toNat, ∀ k < 3,
          ∃ term, field multiTransferName (Call.terms text) (3 + 3 * i + k) = .ok term) ∧
        (∀ call index, ofText text ≠ .error (.missingField call index)) ∧
        ∀ call, ofText text = .ok call ↔
          ∃ payments called, call = .multiTransfer destination payments called ∧
            payments.length = count.toNat ∧
            (∀ i (inside : i < payments.length),
              payments[i].IsReadAt (Call.terms text) (3 + 3 * i)) ∧
            Invocation.IsReadAt (Call.terms text) behind called) ∧
      (size < UInt64.size →
        ((∃ position, positionBehind? count = some position ∧ position.toNat ≤ size) ↔
          behind ≤ size)) := by
  intro size behind
  refine ⟨fun few => ?_, fun enough => ⟨?_, ?_, ?_⟩, ?_⟩
  · rw [ofText, announces.ofTerms_eq, announces.readMultiTransfer_eq, if_pos few]
  · intro i counted k among
    have inside : 3 + 3 * i + k < (Call.terms text).length := by omega
    exact ⟨_, field_eq_ok_iff.mpr (List.getElem?_eq_getElem inside)⟩
  · rw [ofText, announces.ofTerms_eq]
    exact announces.findsTerms enough
  · intro call
    exact announces.ofTerms_eq_ok_iff
  · intro countable
    exact exists_positionBehind?_iff countable count

/-- The largest number of payments that can be announced is refused where nothing follows
it, and one payment of an item is read together with a function and its arguments. -/
theorem ofText_of_announces_of_one_payment :
    let start := "MultiESDTNFTTransfer@0000000000000000000000000000000000000000000000000000000000000000@"
    let destination : Address := ⟨List.replicate 32 0, rfl⟩
    let payment : Payment := ⟨"LP-a1", 10, ⟨5, by decide⟩⟩
    ofText (start ++ "ffffffffffffffff") = .error (.missingField "MultiESDTNFTTransfer" 3) ∧
      ofText (start ++ "01@4c502d6131@0a@05@656e746572@@2a") =
        .ok (.multiTransfer destination [payment] (some ⟨"enter", ["", "2a"]⟩)) := by
  intro start destination payment
  let key := "0000000000000000000000000000000000000000000000000000000000000000"
  have few : Call.terms (start ++ "ffffffffffffffff") =
      ["MultiESDTNFTTransfer", key, "ffffffffffffffff"] := by decide +kernel
  have enough : Call.terms (start ++ "01@4c502d6131@0a@05@656e746572@@2a") =
      ["MultiESDTNFTTransfer", key, "01", "4c502d6131", "0a", "05", "656e746572", "", "2a"] := by
    decide +kernel
  have addressed : Term.address key = .ok destination := by decide +kernel
  have largest : Term.word "ffffffffffffffff" = .ok (UInt64.ofNat (UInt64.size - 1)) := by
    decide +kernel
  have single : Term.word "01" = .ok 1 := by decide +kernel
  constructor
  · have announces : Announces (Call.terms (start ++ "ffffffffffffffff")) destination
        (UInt64.ofNat (UInt64.size - 1)) := by
      rw [few]
      exact ⟨rfl, ⟨key, rfl, addressed⟩, ⟨_, rfl, largest⟩⟩
    have refused := (ofText_of_announces announces).1
    rw [few] at refused
    exact refused (by decide)
  · have announces : Announces (Call.terms (start ++ "01@4c502d6131@0a@05@656e746572@@2a"))
        destination 1 := by
      rw [enough]
      exact ⟨rfl, ⟨key, rfl, addressed⟩, ⟨_, rfl, single⟩⟩
    obtain ⟨-, -, read⟩ := (ofText_of_announces announces).2.1 (by rw [enough]; decide)
    rw [enough] at read
    rw [read]
    have paid : payment.IsReadAt
        ["MultiESDTNFTTransfer", key, "01", "4c502d6131", "0a", "05", "656e746572", "", "2a"] 3 :=
      ⟨⟨_, rfl, by decide +kernel⟩, ⟨_, rfl, by decide +kernel⟩, ⟨_, rfl, by decide +kernel⟩⟩
    have cut : ["MultiESDTNFTTransfer", key, "01", "4c502d6131", "0a", "05", "656e746572", "",
        "2a"] = ["MultiESDTNFTTransfer", key, "01", "4c502d6131", "0a", "05"] ++
          "656e746572" :: ["", "2a"] := rfl
    have called : Term.text "656e746572" = .ok "enter" := by decide +kernel
    refine ⟨[payment], _, rfl, rfl, ?_, .called cut rfl (by decide) called⟩
    rintro (_ | i) inside
    · exact paid
    · simp at inside

end Call

end ChainActivity
