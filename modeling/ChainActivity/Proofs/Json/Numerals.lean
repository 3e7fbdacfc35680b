import ChainActivity.Json.Number
import Mathlib.Data.List.TakeWhile
import Mathlib.Tactic.Linarith
import Mathlib.Tactic.Ring

/-!
# Numerals as they are written

A numeral is written as its parts, one behind the other, and the grammar of numerals cuts
the text into these parts again.

## Main definitions

* `Json.Numeral.written` — the text of a numeral.
* `Json.Numeral.IsWellFormed` — the digits that its parts may have.

## Main statements

* `Json.Numeral.ofLexeme?_written` — a numeral is read back from its text.
* `Json.Numeral.isWellFormed_digits` — the digits of a number are a numeral.
* `Json.Numeral.natValue_append` — the value of digits behind other digits.
* `Json.Numeral.absorb_le` — what a significand takes of digits is no more than their value.

## Design notes

The grammar forbids a zero in front of another digit.  That the digits of a number never
begin so is the only fact about them that is not in the library.
-/

namespace ChainActivity.Json.Numeral

/-! ### Values of digits -/

theorem digitValue_le {c : Char} (digit : c.isDigit = true) : digitValue c ≤ 9 := by
  simp only [Char.isDigit, Bool.and_eq_true, decide_eq_true_eq] at digit
  have upper : c.toNat ≤ 57 := digit.2
  rw [digitValue]
  change c.toNat - 48 ≤ 9
  omega

/-- The value of digits that stand behind others. -/
theorem foldl_eq (n : Nat) (ds : List Char) :
    ds.foldl (fun n d => 10 * n + digitValue d) n = n * 10 ^ ds.length + natValue ds := by
  induction ds generalizing n with
  | nil => simp [natValue]
  | cons d ds ih =>
    rw [natValue, List.foldl_cons, List.foldl_cons, ih, ih (10 * 0 + digitValue d),
      List.length_cons, Nat.pow_succ]
    ring

theorem natValue_append (ds es : List Char) :
    natValue (ds ++ es) = natValue ds * 10 ^ es.length + natValue es := by
  rw [natValue, List.foldl_append]
  exact foldl_eq _ es

theorem natValue_cons (d : Char) (ds : List Char) :
    natValue (d :: ds) = digitValue d * 10 ^ ds.length + natValue ds := by
  rw [natValue, List.foldl_cons, Nat.mul_zero, Nat.zero_add]
  exact foldl_eq _ ds

@[simp] theorem natValue_zeros (k : Nat) : natValue (List.replicate k '0') = 0 := by
  induction k with
  | zero => rfl
  | succ k ih =>
    have zero : digitValue '0' = 0 := rfl
    rw [List.replicate_succ, natValue_cons, ih, zero, Nat.zero_mul]

/-- Digits have a value below the power of ten of their number. -/
theorem natValue_lt {ds : List Char} (digits : ∀ c ∈ ds, c.isDigit = true) :
    natValue ds < 10 ^ ds.length := by
  induction ds with
  | nil => decide
  | cons d ds ih =>
    rw [List.forall_mem_cons] at digits
    have first := digitValue_le digits.1
    have others := ih digits.2
    rw [natValue_cons, List.length_cons, Nat.pow_succ]
    nlinarith

/-! ### Digits of numbers -/

theorem isDigit_of_mem_toDigits {n : Nat} {c : Char} (member : c ∈ Nat.toDigits 10 n) :
    c.isDigit = true :=
  Nat.isDigit_of_mem_toDigits (by decide) (by decide) member

/-- Reading the digits of a number gives the number back. -/
theorem natValue_toDigits (n : Nat) : natValue (Nat.toDigits 10 n) = n :=
  Nat.ofDigitChars_toDigits (by decide) (by decide)

/-- A number that is not zero does not begin with a zero. -/
theorem head?_toDigits_ne_zero {n : Nat} (positive : 0 < n) :
    (Nat.toDigits 10 n).head? ≠ some '0' := by
  induction n using Nat.strongRecOn with
  | ind n ih =>
    rw [Nat.toDigits_eq_if (by decide)]
    split
    · intro zero
      have digit : Nat.digitChar n = '0' := Option.some.inj zero
      rw [Nat.digitChar_eq_zero] at digit
      omega
    · next large =>
      have front : (Nat.toDigits 10 (n / 10)).head? ≠ some '0' :=
        ih (n / 10) (by omega) (by omega)
      -- another digit behind it leaves the first digit what it is
      obtain ⟨d, ds, written⟩ :=
        List.exists_cons_of_ne_nil (Nat.toDigits_ne_nil (n := n / 10) (b := 10))
      rw [written] at front ⊢
      exact front

/-! ### Significands -/

/-- A significand that takes digits stays within sixty-four bits. -/
theorem absorb_lt {s : Nat} (small : s < UInt64.size) (ds : List Char) :
    (absorb s ds).1 < UInt64.size := by
  induction ds generalizing s with
  | nil => exact small
  | cons d ds ih =>
    simp only [absorb]
    split
    · next fits => exact ih fits
    · exact small

/-- It leaves no more digits than there are. -/
theorem absorb_snd_le (s : Nat) (ds : List Char) : (absorb s ds).2 ≤ ds.length := by
  induction ds generalizing s with
  | nil => exact Nat.le_refl 0
  | cons d ds ih =>
    simp only [absorb]
    split
    · exact (ih _).trans (Nat.le_succ _)
    · exact Nat.le_refl _

/-- With zeros for the digits that it leaves, it is at most what they all denote. -/
theorem absorb_le (s : Nat) (ds : List Char) :
    (absorb s ds).1 * 10 ^ (absorb s ds).2 ≤ s * 10 ^ ds.length + natValue ds := by
  induction ds generalizing s with
  | nil => exact Nat.le_refl _
  | cons d ds ih =>
    simp only [absorb]
    split
    · refine (ih _).trans_eq ?_
      rw [natValue_cons, List.length_cons, Nat.pow_succ]
      ring
    · exact Nat.le_add_right ..

/-- It takes all digits as long as they fit. -/
theorem absorb_of_lt {s : Nat} {ds : List Char}
    (fits : s * 10 ^ ds.length + natValue ds < UInt64.size) :
    absorb s ds = (s * 10 ^ ds.length + natValue ds, 0) := by
  induction ds generalizing s with
  | nil => simp [absorb, natValue]
  | cons d ds ih =>
    have same : (10 * s + digitValue d) * 10 ^ ds.length + natValue ds =
        s * 10 ^ (d :: ds).length + natValue (d :: ds) := by
      rw [natValue_cons, List.length_cons, Nat.pow_succ]
      ring
    have next : 10 * s + digitValue d < UInt64.size := by
      have power : 0 < 10 ^ ds.length := Nat.pow_pos (by decide)
      have scaled := Nat.le_mul_of_pos_right (10 * s + digitValue d) power
      omega
    simp only [absorb, if_pos next]
    rw [ih (same ▸ fits), same]

/-! ### Grammar -/

/-- Whether what follows does not go on with another digit. -/
def EndsDigits (rest : List Char) : Prop := ∀ c cs, rest = c :: cs → c.isDigit = false

theorem endsDigits_nil : EndsDigits [] := fun _ _ same => nomatch same

theorem endsDigits_cons {c : Char} (other : c.isDigit = false) (cs : List Char) :
    EndsDigits (c :: cs) := by
  rintro d ds ⟨⟩
  exact other

/-- All digits in front are read, and no more. -/
theorem digits?_append {ds rest : List Char} (present : ds ≠ [])
    (digits : ∀ c ∈ ds, c.isDigit = true) (ends : EndsDigits rest) :
    digits? (ds ++ rest) = some (ds, rest) := by
  have taken : (ds ++ rest).takeWhile Char.isDigit = ds := by
    rw [List.takeWhile_append_of_pos digits]
    cases rest with
    | nil => simp
    | cons c cs => simp [ends c cs rfl]
  have dropped : (ds ++ rest).dropWhile Char.isDigit = rest := by
    rw [List.dropWhile_append_of_pos digits]
    cases rest with
    | nil => simp
    | cons c cs => simp [ends c cs rfl]
  rw [digits?, taken, dropped]
  cases ds with
  | nil => exact absurd rfl present
  | cons d ds => rfl

/-- Whether digits are at least one, and only digits. -/
def AreDigits (ds : List Char) : Prop := ds ≠ [] ∧ ∀ c ∈ ds, c.isDigit = true

theorem areDigits_toDigits (n : Nat) : AreDigits (Nat.toDigits 10 n) :=
  ⟨Nat.toDigits_ne_nil, fun _ => isDigit_of_mem_toDigits⟩

/-- The digits of a number have no zero in front of others. -/
theorem toDigits_ne_zero_cons (n : Nat) (d : Char) (ds : List Char) :
    Nat.toDigits 10 n ≠ '0' :: d :: ds := by
  intro written
  rcases Nat.eq_zero_or_pos n with rfl | positive
  · rw [Nat.toDigits_zero] at written
    exact absurd written (by simp)
  · exact absurd (by rw [written]; rfl) (head?_toDigits_ne_zero positive)

/-- Whether parts are such as the grammar cuts a text into. -/
structure IsWellFormed (n : Numeral) : Prop where
  whole : AreDigits n.whole
  /-- A zero in front stands alone. -/
  noLeadingZero : ∀ d ds, n.whole ≠ '0' :: d :: ds
  fraction : ∀ ds ∈ n.fraction, AreDigits ds
  exponent : ∀ e ∈ n.exponent, AreDigits e.2

/-- The text of a fraction. -/
def fractionText : Option (List Char) → List Char
  | none => []
  | some ds => '.' :: ds

/-- The text of an exponent; the sign is always written. -/
def exponentText : Option (Bool × List Char) → List Char
  | none => []
  | some (negative, ds) => 'e' :: (if negative then '-' else '+') :: ds

/-- The text of a numeral. -/
def written (n : Numeral) : List Char :=
  (if n.negative then ['-'] else []) ++
    (n.whole ++ (fractionText n.fraction ++ exponentText n.exponent))

theorem endsDigits_exponentText (e : Option (Bool × List Char)) : EndsDigits (exponentText e) := by
  rcases e with _ | ⟨negative, ds⟩
  · exact endsDigits_nil
  · exact endsDigits_cons (by decide) _

theorem endsDigits_fractionText (f : Option (List Char)) (e : Option (Bool × List Char)) :
    EndsDigits (fractionText f ++ exponentText e) := by
  rcases f with _ | ds
  · exact endsDigits_exponentText e
  · exact endsDigits_cons (by decide) _

theorem whole?_append {ds rest : List Char} (digits : AreDigits ds)
    (noLeadingZero : ∀ d es, ds ≠ '0' :: d :: es) (ends : EndsDigits rest) :
    whole? (ds ++ rest) = some (ds, rest) := by
  rw [whole?, digits?_append digits.1 digits.2 ends]
  split
  · next d es rest' same =>
    exact absurd (Prod.mk.inj (Option.some.inj same)).1 (noLeadingZero d es)
  · rfl

theorem fraction?_append {f : Option (List Char)} (digits : ∀ ds ∈ f, AreDigits ds)
    (e : Option (Bool × List Char)) :
    fraction? (fractionText f ++ exponentText e) = some (f, exponentText e) := by
  rcases f with _ | ds
  · rcases e with _ | ⟨negative, es⟩
    · rfl
    · rfl
  · obtain ⟨present, all⟩ := digits ds rfl
    rw [fractionText, List.cons_append, fraction?,
      digits?_append present all (endsDigits_exponentText e)]
    rfl

theorem exponent?_exponentText {e : Option (Bool × List Char)} (digits : ∀ x ∈ e, AreDigits x.2) :
    exponent? (exponentText e) = some (e, []) := by
  rcases e with _ | ⟨negative, ds⟩
  · rfl
  · obtain ⟨present, all⟩ := digits (negative, ds) rfl
    have read : digits? ds = some (ds, []) := by
      have whole := digits?_append present all endsDigits_nil
      rwa [List.append_nil] at whole
    cases negative <;> simp [exponentText, exponent?, exponentSign, read]

/-- A numeral is read back from its text. -/
theorem ofLexeme?_written {n : Numeral} (wellFormed : n.IsWellFormed) :
    ofLexeme? n.written = some n := by
  have sign : minus n.written =
      (n.negative, n.whole ++ (fractionText n.fraction ++ exponentText n.exponent)) := by
    rw [written]
    rcases n.negative with _ | _
    · simp only [Bool.false_eq_true, if_false, List.nil_append]
      unfold minus
      split
      · next rest same =>
        -- a digit stands in front, and no minus sign
        obtain ⟨present, digits⟩ := wellFormed.whole
        rcases whole : n.whole with _ | ⟨d, ds⟩
        · exact absurd whole present
        · rw [whole, List.cons_append] at same
          have digit : d.isDigit = true := digits d (by rw [whole]; exact List.mem_cons_self)
          rw [(List.cons.inj same).1] at digit
          exact absurd digit (by decide)
      · rfl
    · rfl
  rw [ofLexeme?, sign]
  simp only [whole?_append wellFormed.whole wellFormed.noLeadingZero (endsDigits_fractionText _ _),
    fraction?_append wellFormed.fraction, exponent?_exponentText wellFormed.exponent, bind,
    Option.bind]
  rfl

/-- The digits of a number are a numeral, with or without a minus sign. -/
theorem isWellFormed_digits (negative : Bool) (n : Nat) :
    IsWellFormed ⟨negative, Nat.toDigits 10 n, none, none⟩ where
  whole := areDigits_toDigits n
  noLeadingZero := toDigits_ne_zero_cons n
  fraction _ absent := nomatch absent
  exponent _ absent := nomatch absent

end ChainActivity.Json.Numeral
