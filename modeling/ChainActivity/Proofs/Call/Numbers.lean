import ChainActivity.Proofs.Amount.Grammar
import ChainActivity.Proofs.Call.Rereading

/-!
# Numbers and amounts among the terms of a call

A nonce, a number of payments and an amount are all written in hexadecimal digits, and are read
by two readers.  Both take a row of digits of either case for its positional value, and the empty
row for zero.  The reader of nonces and numbers of payments has a limit on the value and none on
the length; and it takes a plus sign in front of the digits, which the reader of amounts refuses.

## Main definitions

* `Numeral.Denotes` — the value of a row of digits, perhaps behind a plus sign.
* `Call.wordPositions`, `Call.amountPositions` — where a call has a nonce or a number of payments,
  and where it has an amount.

## Main statements

* `Numeral.valueFrom_eq_ok_iff` — the reader of numerals computes the positional value.
* `Term.word_eq_ok_iff`, `Amount.ofText_eq_ok_iff` — what the two readers accept.
* `Call.numbers_are_numerals` — for which terms they agree, and what stands in calls.
* `Call.word_ne_amount_of_plus` — a term that only one of them accepts, and a call with it.
-/

namespace ChainActivity

/-! ### Rows of digits -/

namespace Radix

variable {base : Nat}

theorem denotes_nil_iff {n : Nat} : Denotes base [] n ↔ n = 0 := by
  simp [Denotes]

/-- The first digit of a row counts by the number of digits behind it. -/
theorem denotes_cons_iff {c : Char} {cs : List Char} {n : Nat} :
    Denotes base (c :: cs) n ↔
      ∃ d m, StandsFor base c d ∧ Denotes base cs m ∧ n = d * base ^ cs.length + m := by
  constructor
  · rintro ⟨es, row, rfl⟩
    obtain ⟨d, ds, first, others, rfl⟩ := List.forall₂_cons_left_iff.mp row
    refine ⟨d, Nat.ofDigits base ds.reverse, first, ⟨ds, others, rfl⟩, ?_⟩
    rw [Nat.ofDigits_reverse_cons, others.length_eq]
    ring
  · rintro ⟨d, -, first, ⟨ds, others, rfl⟩, rfl⟩
    refine ⟨d :: ds, .cons first others, ?_⟩
    rw [Nat.ofDigits_reverse_cons, others.length_eq]
    ring

end Radix

namespace Numeral

/-- Whether characters are a row of digits of a base with this positional value, or such a row
behind a plus sign. -/
def Denotes (base : Nat) (cs : List Char) (n : Nat) : Prop :=
  Radix.Denotes base cs n ∨ ∃ digits, cs = '+' :: digits ∧ digits ≠ [] ∧ Radix.Denotes base digits n

variable {base limit n : Nat} (small : base ≤ 16)
include small

theorem digit?_eq_some_iff {c : Char} {d : Nat} :
    digit? base c = some d ↔ Radix.StandsFor base c d := by
  rw [digit?, Option.filter_eq_some_iff, Hex.digitValue?_eq_some_iff, decide_eq_true_iff,
    Radix.StandsFor]
  constructor
  · rintro ⟨⟨-, place⟩, below⟩
    exact ⟨below, place⟩
  · rintro ⟨below, place⟩
    exact ⟨⟨by omega, place⟩, below⟩

/-- A plus sign is no digit. -/
theorem not_denotes_plus {cs : List Char} : ¬ Radix.Denotes base ('+' :: cs) n := by
  intro row
  obtain ⟨d, m, sign, -, -⟩ := Radix.denotes_cons_iff.mp row
  have value : Hex.digitValue? '+' = some d :=
    Hex.digitValue?_eq_some_iff.mpr ⟨by have := sign.1; omega, sign.2⟩
  exact absurd value (by simp [show Hex.digitValue? '+' = none by decide])

/-- Digits behind a number are read if the number that they make together is below the limit. -/
theorem valueFrom_eq_ok_iff {m : Nat} {cs : List Char} (start : n < limit) :
    valueFrom base limit n cs = .ok m ↔
      ∃ k, Radix.Denotes base cs k ∧ m = n * base ^ cs.length + k ∧ m < limit := by
  induction cs generalizing n with
  | nil =>
    constructor
    · rintro ⟨⟩
      exact ⟨0, Radix.denotes_nil_iff.mpr rfl, by simp, start⟩
    · rintro ⟨k, row, rfl, -⟩
      simp [valueFrom, Radix.denotes_nil_iff.mp row]
  | cons c cs ih =>
    have moved : ∀ d k, n * base ^ (c :: cs).length + (d * base ^ cs.length + k) =
        (n * base + d) * base ^ cs.length + k := by
      intro d k
      rw [List.length_cons, Nat.pow_succ]
      ring
    constructor
    · intro read
      rw [valueFrom] at read
      split at read
      · cases read
      · next d digit =>
        split at read
        · next fits =>
          obtain ⟨k, row, rfl, below⟩ := (ih fits).mp read
          have first := (digit?_eq_some_iff small).mp digit
          exact ⟨_, Radix.denotes_cons_iff.mpr ⟨d, k, first, row, rfl⟩, (moved d k).symm, below⟩
        · cases read
    · rintro ⟨k, whole, value, below⟩
      obtain ⟨d, k, first, row, rfl⟩ := Radix.denotes_cons_iff.mp whole
      rw [moved] at value
      -- the number with one more digit is no more than the number with all of them
      have fits : n * base + d < limit :=
        calc n * base + d
            ≤ (n * base + d) * base ^ cs.length :=
              Nat.le_mul_of_pos_right _ (Nat.pow_pos (Nat.zero_lt_of_lt first.1))
          _ ≤ (n * base + d) * base ^ cs.length + k := Nat.le_add_right ..
          _ = m := value.symm
          _ < limit := below
      rw [valueFrom, (digit?_eq_some_iff small).mpr first]
      dsimp only
      rw [if_pos fits]
      exact (ih fits).mpr ⟨k, row, value, below⟩

/-- A numeral has at least one digit and a value below the limit. -/
theorem value_eq_ok_iff (positive : 0 < limit) {cs : List Char} :
    value base limit cs = .ok n ↔ cs ≠ [] ∧ Denotes base cs n ∧ n < limit := by
  have digits : ∀ {cs : List Char}, valueFrom base limit 0 cs = .ok n ↔
      Radix.Denotes base cs n ∧ n < limit := by
    intro cs
    rw [valueFrom_eq_ok_iff small positive]
    simp
  rcases cs with _ | ⟨c, cs⟩
  · simp [value]
  · by_cases sign : c = '+'
    · subst sign
      have row : Denotes base ('+' :: cs) n ↔ cs ≠ [] ∧ Radix.Denotes base cs n := by
        simp [Denotes, not_denotes_plus small]
      by_cases present : cs = []
      · subst present
        simp [value, row]
      · rw [value_of_plus present, digits, row]
        simp [present]
    · have row : Denotes base (c :: cs) n ↔ Radix.Denotes base (c :: cs) n := by
        simp [Denotes, sign]
      rw [value_of_ne_plus sign, digits, row]
      simp

end Numeral

/-! ### Terms -/

/-- A term means a number of sixty-four bits if it is empty, or a numeral of that number. -/
theorem Term.word_eq_ok_iff {term : String} {n : UInt64} :
    word term = .ok n ↔ Numeral.Denotes 16 term.toList n.toNat := by
  have value : ∀ {m : Nat}, Numeral.value 16 UInt64.size term.toList = .ok m ↔
      term.toList ≠ [] ∧ Numeral.Denotes 16 term.toList m ∧ m < UInt64.size :=
    Numeral.value_eq_ok_iff (by decide) (by decide)
  by_cases none : term = ""
  · subst none
    have zero : n = 0 ↔ n.toNat = 0 := UInt64.toNat_inj.symm
    simp [word, Numeral.Denotes, Radix.denotes_nil_iff, eq_comm (b := n), zero]
  · have present : term.toList ≠ [] := by simpa using none
    rw [word, if_neg none]
    constructor
    · intro read
      split at read
      · next m found =>
        obtain ⟨-, denotes, below⟩ := value.mp found
        obtain rfl := Except.ok.inj read
        rwa [UInt64.toNat_ofNat_of_lt' below]
      · cases read
    · intro denotes
      rw [value.mpr ⟨present, denotes, n.toNat_lt_size⟩]
      simp

namespace Amount

variable {base : Nat} {text : String} {a : Amount}

/-- A text that is an amount is short. -/
theorem size_le_of_ofText (read : ofText base text = .ok a) : text.utf8ByteSize ≤ maxSize := by
  by_contra long
  rw [ofText, if_pos (Nat.lt_of_not_le long)] at read
  cases read

/-- A short text is an amount exactly if it denotes it. -/
theorem ofText_eq_ok_iff (common : base = 10 ∨ base = 16) (short : text.utf8ByteSize ≤ maxSize) :
    ofText base text = .ok a ↔ Radix.Denotes base text.toList a.toNat := by
  constructor
  · intro read
    by_cases row : ∃ n, Radix.Denotes base text.toList n
    · obtain ⟨n, denotes⟩ := row
      obtain ⟨b, rfl, found⟩ := exists_ofText_of_denotes common short denotes
      obtain rfl : b = a := Except.ok.inj (found.symm.trans read)
      exact denotes
    · rw [ofText_of_not_denotes common short row] at read
      cases read
  · intro denotes
    obtain ⟨b, same, found⟩ := exists_ofText_of_denotes common short denotes
    rw [found, Amount.ext same]

end Amount

/-- A short term means a number to one reader and not to the other exactly if it has a plus sign in
front of the digits of a number of sixty-four bits. -/
theorem Term.word_iff_amount {term : String} (short : term.utf8ByteSize ≤ Amount.maxSize) :
    (∀ n : UInt64, word term = .ok n ↔
      ∃ a, Amount.ofText 16 term = .ok a ∧ a.toNat = n.toNat) ↔
    ¬ ∃ digits n, term.toList = '+' :: digits ∧ digits ≠ [] ∧ Radix.Denotes 16 digits n ∧
      n < UInt64.size := by
  have amount : ∀ n : UInt64, (∃ a, Amount.ofText 16 term = .ok a ∧ a.toNat = n.toNat) ↔
      Radix.Denotes 16 term.toList n.toNat := by
    intro n
    constructor
    · rintro ⟨a, read, same⟩
      exact same ▸ (Amount.ofText_eq_ok_iff (.inr rfl) short).mp read
    · intro row
      obtain ⟨a, same, read⟩ := Amount.exists_ofText_of_denotes (.inr rfl) short row
      exact ⟨a, read, same⟩
  simp only [amount, word_eq_ok_iff, Numeral.Denotes]
  constructor
  · rintro agree ⟨digits, n, sign, present, row, below⟩
    have number : (UInt64.ofNat n).toNat = n := UInt64.toNat_ofNat_of_lt' below
    have plain := (agree (UInt64.ofNat n)).mp (.inr ⟨digits, sign, present, number.symm ▸ row⟩)
    rw [sign] at plain
    exact Numeral.not_denotes_plus (by decide) plain
  · intro unsigned n
    constructor
    · rintro (row | ⟨digits, sign, present, row⟩)
      · exact row
      · exact absurd ⟨digits, n.toNat, sign, present, row, n.toNat_lt_size⟩ unsigned
    · exact .inl

/-! ### Calls -/

theorem Term.amount_eq_ok_iff {term : String} {a : Amount} :
    amount term = .ok a ↔ Amount.ofText 16 term = .ok a := by
  rw [amount]
  cases Amount.ofText 16 term <;> simp

namespace Call

/-- Where a call has a nonce, or the number of its payments. -/
def wordPositions : Call → List Nat
  | transfer .. | generic _ => []
  | itemTransfer .. => [2]
  | multiTransfer _ payments _ => 2 :: (List.range payments.length).map fun i => 3 + 3 * i + 1

/-- Where a call has an amount. -/
def amountPositions : Call → List Nat
  | generic _ => []
  | transfer .. => [2]
  | itemTransfer .. => [3]
  | multiTransfer _ payments _ => (List.range payments.length).map fun i => 3 + 3 * i + 2

section Layout

variable {terms : List String} {call : Call} {index : Nat}

theorem IsReadFrom.word (laid : IsReadFrom terms call) (member : index ∈ call.wordPositions) :
    ∃ n, Term.MeansAt Term.word terms index n := by
  cases laid with
  | transfer named means counts calls => cases member
  | itemTransfer named paid addressed calls =>
    obtain rfl := List.mem_singleton.mp member
    exact ⟨_, paid.nonce⟩
  | multiTransfer named addressed counted all paid calls =>
    rcases List.mem_cons.mp member with rfl | later
    · exact ⟨_, counted⟩
    · obtain ⟨i, inside, rfl⟩ := List.mem_map.mp later
      exact ⟨_, (paid i (List.mem_range.mp inside)).nonce⟩
  | generic other => cases member

theorem IsReadFrom.amount (laid : IsReadFrom terms call) (member : index ∈ call.amountPositions) :
    ∃ a, Term.MeansAt Term.amount terms index a := by
  cases laid with
  | transfer named means counts calls =>
    obtain rfl := List.mem_singleton.mp member
    exact ⟨_, counts⟩
  | itemTransfer named paid addressed calls =>
    obtain rfl := List.mem_singleton.mp member
    exact ⟨_, paid.amount⟩
  | multiTransfer named addressed counted all paid calls =>
    obtain ⟨i, inside, rfl⟩ := List.mem_map.mp member
    exact ⟨_, (paid i (List.mem_range.mp inside)).amount⟩
  | generic other => cases member

end Layout

/-- **A nonce, or a number of payments, is a row of digits, perhaps behind a plus sign**, and an
amount is a row of digits.  The two readers agree on every short term but those with the sign. -/
theorem numbers_are_numerals (term payload : String) :
    (∀ n : UInt64, Term.word term = .ok n ↔ Numeral.Denotes 16 term.toList n.toNat) ∧
    (term.utf8ByteSize ≤ 64 →
      ((∀ n : UInt64, Term.word term = .ok n ↔
          ∃ a, Amount.ofText 16 term = .ok a ∧ a.toNat = n.toNat) ↔
        ¬ ∃ digits n, term.toList = '+' :: digits ∧ digits ≠ [] ∧ Radix.Denotes 16 digits n ∧
          n < 2 ^ 64)) ∧
    ∀ call, ofText payload = .ok call →
      (∀ i ∈ call.wordPositions, ∃ word n, (terms payload)[i]? = some word ∧
        Numeral.Denotes 16 word.toList n ∧ n < 2 ^ 64) ∧
      ∀ i ∈ call.amountPositions, ∃ word n, (terms payload)[i]? = some word ∧
        Radix.Denotes 16 word.toList n ∧ word.utf8ByteSize ≤ 64 := by
  refine ⟨fun _ => Term.word_eq_ok_iff, fun short => Term.word_iff_amount short, ?_⟩
  intro call read
  have laid := isReadFrom_of_ofText read
  constructor
  · intro i member
    obtain ⟨n, word, here, means⟩ := laid.word member
    exact ⟨word, n.toNat, here, Term.word_eq_ok_iff.mp means, n.toNat_lt⟩
  · intro i member
    obtain ⟨a, word, here, means⟩ := laid.amount member
    have amount := Term.amount_eq_ok_iff.mp means
    have short := Amount.size_le_of_ofText amount
    exact ⟨word, a.toNat, here, (Amount.ofText_eq_ok_iff (.inr rfl) short).mp amount, short⟩

/-- Zeros in front count for neither reader, although they are more than a word has digits; and a
call is read that has them in its nonce. -/
theorem numbers_are_numerals_of_leading_zeros :
    let term := "0000000000000000000000fF"
    let payload := "ESDTNFTTransfer@4e@" ++ term ++ "@01@" ++ String.ofList (List.replicate 64 '0')
    term.utf8ByteSize ≤ 64 ∧ Term.word term = .ok 255 ∧
      (∃ a, Amount.ofText 16 term = .ok a ∧ a.toNat = 255) ∧
      ∃ word n, (terms payload)[2]? = some word ∧ Numeral.Denotes 16 word.toList n ∧
        n < 2 ^ 64 := by
  intro term payload
  obtain ⟨-, agree, laid⟩ := numbers_are_numerals term payload
  have short : term.utf8ByteSize ≤ 64 := by decide
  have unsigned : ¬ ∃ digits n, term.toList = '+' :: digits ∧ digits ≠ [] ∧
      Radix.Denotes 16 digits n ∧ n < 2 ^ 64 := by
    rintro ⟨digits, n, sign, -⟩
    have first : term.toList.head? = some '+' := congrArg List.head? sign
    exact absurd first (by decide)
  have read : Term.word term = .ok 255 := by decide +kernel
  have call : ofText payload =
      .ok (.itemTransfer ⟨"N", 255, ⟨1, by decide⟩⟩ ⟨List.replicate 32 0, by decide⟩ none) := by
    decide +kernel
  exact ⟨short, read, ((agree short).mpr unsigned 255).mp read,
    (laid _ call).1 2 (List.mem_singleton_self 2)⟩

/-- A plus sign in front of the digits is taken for a number and refused for an amount; and a call
is read that has one in its nonce. -/
theorem word_ne_amount_of_plus :
    Term.word "+0a" = .ok 10 ∧ Amount.ofText 16 "+0a" = .error (.malformed "+0a") ∧
      ∃ call, ofText ("ESDTNFTTransfer@4e@+0a@01@" ++ String.ofList (List.replicate 64 '0')) =
          .ok call ∧ call.payments.map Payment.nonce = [10] := by
  refine ⟨by decide +kernel, by decide +kernel, ?_⟩
  refine ⟨.itemTransfer ⟨"N", 10, ⟨1, by decide⟩⟩ ⟨List.replicate 32 0, by decide⟩ none, ?_, rfl⟩
  decide +kernel

end Call

end ChainActivity
