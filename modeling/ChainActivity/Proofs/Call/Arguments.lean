import ChainActivity.Call.Term
import ChainActivity.Proofs.Call.Numbers
import ChainActivity.Proofs.Token.Hexadecimal

/-!
# What arguments are taken for

An argument is a row of hexadecimal digits, and nothing in it says whether it means a text, a
number or an address.  Digits of the length of a key are an address.  Other digits are a text if
their bytes are one that a person could have written, and a number otherwise.

## Main definitions

* `Term.Spells` — a term in given digits, each of which may be in lower or in upper case.
* `Argument.IsReadable` — the texts that a person could have written, for a class of letters.

## Main statements

* `Hex.decodeFrom_of_toLower`, `Hex.exists_toLower_eq_encode` — digits of either case are read as
  bytes, and digits that are even in number always denote some.
* `Radix.denotes_toLower`, `Amount.ofText_of_spells` — digits of either case are read as an amount.
* `Argument.ofTermWith_of_key`, `Argument.ofTermWith_of_readable`, `Argument.ofTermWith_of_number` —
  the three meanings of the digits of bytes.
* `Argument.ofTermWith_meaning` — what texts, amounts and keys become.

## Design notes

A digit has the value of its lower-case form, so both readers of digits are shown to be blind to
case and every statement is about a spelling.  Which of the three meanings applies depends on the
bytes alone: on how many they are, and on the text that they encode, if they encode one.
-/

namespace ChainActivity

/-! ### Digits of either case -/

namespace Hex

/-- Only characters of seven bits have another lower-case form. -/
theorem toLower_of_le {c : Char} (large : 128 ≤ c.toNat) : c.toLower = c := by
  unfold Char.toLower
  rw [dif_neg]
  rintro ⟨-, upper⟩
  have small : c.toNat ≤ 90 := upper
  omega

/-- A digit has the value of its lower-case form. -/
theorem digitValue?_toLower (c : Char) : digitValue? c.toLower = digitValue? c := by
  rcases Nat.lt_or_ge c.toNat 128 with ascii | large
  · exact forall_ascii (P := fun c => digitValue? c.toLower = digitValue? c) (by decide) ascii
  · rw [toLower_of_le large]

/-- The lower-case form of a digit is the one that is written for its value. -/
theorem toLower_of_digitValue? {c : Char} {n : Nat} (value : digitValue? c = some n) :
    n < 16 ∧ c.toLower = digitChar n :=
  forall_ascii (P := fun c => ∀ n ∈ digitValue? c, n < 16 ∧ c.toLower = digitChar n)
    (by decide) (toNat_lt_of_digitValue? value) n value

theorem isDigit_toLower (c : Char) : isDigit c.toLower = isDigit c := by
  rw [isDigit, digitValue?_toLower, isDigit]

variable {cs : List Char} {bytes : List UInt8}

/-- The digits of bytes, of either case, are read as the bytes. -/
theorem decodeFrom_of_toLower (spelled : cs.map Char.toLower = encode bytes) (position : Nat) :
    decodeFrom position cs = .ok bytes := by
  induction bytes generalizing cs position with
  | nil =>
    obtain rfl := List.map_eq_nil_iff.mp spelled
    rfl
  | cons b bytes ih =>
    rw [encode_cons] at spelled
    obtain ⟨high, _, rfl, first, spelled⟩ := List.map_eq_cons_iff.mp spelled
    obtain ⟨low, rest, rfl, second, spelled⟩ := List.map_eq_cons_iff.mp spelled
    have small : b.toNat < 256 := b.toNat_lt
    have front : digitValue? high = some (b.toNat / 16) := by
      rw [← digitValue?_toLower, first, digitValue?_digitChar (by omega)]
    have back : digitValue? low = some (b.toNat % 16) := by
      rw [← digitValue?_toLower, second, digitValue?_digitChar (by omega)]
    have whole : b.toNat / 16 * 16 + b.toNat % 16 = b.toNat := by omega
    simp only [decodeFrom, nibble, front, back, bind, Except.bind, ih spelled, whole,
      UInt8.ofNat_toNat]

/-- Digits that are even in number are the digits of some bytes. -/
theorem exists_toLower_eq_encode : ∀ {cs : List Char}, (∀ c ∈ cs, isDigit c = true) →
    cs.length % 2 = 0 → ∃ bytes, cs.map Char.toLower = encode bytes
  | [], _, _ => ⟨[], rfl⟩
  | [_], _, even => absurd even (by simp)
  | c :: d :: rest, digits, even => by
    rw [List.forall_mem_cons, List.forall_mem_cons] at digits
    have later : rest.length % 2 = 0 := by
      rw [List.length_cons, List.length_cons] at even
      omega
    -- two digits are a byte, and those behind them are even in number too
    obtain ⟨bytes, spelled⟩ := exists_toLower_eq_encode digits.2.2 later
    obtain ⟨high, front⟩ := Option.isSome_iff_exists.mp digits.1
    obtain ⟨low, back⟩ := Option.isSome_iff_exists.mp digits.2.1
    obtain ⟨_, first⟩ := toLower_of_digitValue? front
    obtain ⟨_, second⟩ := toLower_of_digitValue? back
    have byte : (UInt8.ofNat (high * 16 + low)).toNat = high * 16 + low :=
      UInt8.toNat_ofNat_of_lt (show high * 16 + low < 256 by omega)
    refine ⟨UInt8.ofNat (high * 16 + low) :: bytes, ?_⟩
    rw [List.map_cons, List.map_cons, spelled, first, second, encode_cons, byte,
      show (high * 16 + low) / 16 = high by omega, show (high * 16 + low) % 16 = low by omega]

end Hex

/-- Digits denote the same number in either case. -/
theorem Radix.denotes_toLower {cs : List Char} {n : Nat} :
    Denotes 16 (cs.map Char.toLower) n ↔ Denotes 16 cs n := by
  have values : digitValue 16 ∘ Char.toLower = digitValue 16 := by
    funext c
    show (Hex.digitValue? c.toLower).getD 0 = (Hex.digitValue? c).getD 0
    rw [Hex.digitValue?_toLower]
  rw [denotes_iff (.inr rfl), denotes_iff (.inr rfl), List.map_map, values]
  simp [isDigit, Hex.isDigit_toLower]

/-! ### Spellings -/

namespace Term

/-- Whether a term consists of given digits, each of them in lower or in upper case. -/
def Spells (term digits : String) : Prop :=
  term.toList.map Char.toLower = digits.toList

instance (term digits : String) : Decidable (Spells term digits) :=
  inferInstanceAs (Decidable (_ = _))

namespace Spells

variable {term : String} {bytes : List UInt8}
  (spelled : Spells term (String.ofList (Hex.encode bytes)))
include spelled

theorem toLower_eq : term.toList.map Char.toLower = Hex.encode bytes := by
  rw [spelled, String.toList_ofList]

theorem isDigit {c : Char} (member : c ∈ term.toList) : Hex.isDigit c = true := by
  have written : c.toLower ∈ Hex.encode bytes := by
    rw [← spelled.toLower_eq]
    exact List.mem_map_of_mem member
  rw [← Hex.isDigit_toLower]
  exact Hex.isDigit_of_mem_encode written

theorem size_eq : Utf8.size term.toList = 2 * bytes.length := by
  rw [Hex.size_of_forall_isDigit fun c => spelled.isDigit, ← Hex.length_encode,
    ← spelled.toLower_eq, List.length_map]

/-- A spelling of bytes means the bytes. -/
theorem bytes_eq : Term.bytes term = .ok bytes := by
  have even : ¬ Utf8.size term.toList % 2 = 1 := by
    rw [spelled.size_eq]
    omega
  rw [Term.bytes, Hex.withoutMark_of_forall_isDigit fun c => spelled.isDigit, Hex.decode,
    if_neg even, Hex.decodeFrom_of_toLower spelled.toLower_eq]

end Spells

variable {term : String}

/-- A spelling of a text means the text. -/
theorem Spells.text_eq {s : String} (spelled : Spells term (ofText s)) : text term = .ok s :=
  text_eq_ok_iff.mpr spelled.bytes_eq

/-- A spelling of a key means the address. -/
theorem Spells.address_eq {a : Address} (spelled : Spells term (ofAddress a)) :
    address term = .ok a := by
  rw [address, spelled.bytes_eq]
  simp only [bind, Except.bind, Address.ofKey?_key]

end Term

/-- A spelling of the digits of an amount is read as the amount. -/
theorem Amount.ofText_of_spells {v : TokenAmount} {term : String}
    (spelled : Term.Spells term v.toHex) : ofText 16 term = .ok v.units := by
  have same : Utf8.size term.toList = Utf8.size v.toHex.toList := by
    rw [TokenAmount.toHex_eq] at spelled ⊢
    rw [spelled.size_eq, String.toList_ofList, Hex.size_encode]
  have short : v.toHex.utf8ByteSize ≤ maxSize := size_le_of_ofText v.ofText_toHex
  rw [ofText_eq_ok_iff (.inr rfl) (by rwa [← Utf8.size_toList, same, Utf8.size_toList]),
    ← Radix.denotes_toLower, spelled]
  exact (ofText_eq_ok_iff (.inr rfl) short).mp v.ofText_toHex

/-! ### Meanings -/

namespace Argument

/-- Whether a text is one that a person could have written: it is not empty and holds nothing but
letters of a class, spaces and hyphens. -/
def IsReadable (isLetter : Char → Bool) (s : String) : Prop :=
  s ≠ "" ∧ ∀ c ∈ s.toList, isLetter c = true ∨ c = ' ' ∨ c = '-'

theorem isWritten_iff {isLetter : Char → Bool} {s : String} :
    isWritten isLetter s = true ↔ IsReadable isLetter s := by
  simp [isWritten, IsReadable, or_assoc]

instance (isLetter : Char → Bool) (s : String) : Decidable (IsReadable isLetter s) :=
  decidable_of_iff (isWritten isLetter s = true) isWritten_iff

section Meanings

variable (isLetter : Char → Bool) {term : String}

/-- The digits of a key are taken for an address. -/
theorem ofTermWith_of_key {a : Address} (spelled : Term.Spells term (Term.ofAddress a)) :
    ofTermWith isLetter term = .address a := by
  have long : term.utf8ByteSize = 2 * Address.keySize := by
    rw [← Utf8.size_toList, spelled.size_eq, a.length_key]
    rfl
  rw [ofTermWith, if_pos long, ofKeyTerm, spelled.address_eq]

/-- The digits of a readable text are taken for the text, unless they are as many as those of a
key. -/
theorem ofTermWith_of_readable {s : String} (spelled : Term.Spells term (Term.ofText s))
    (other : s.utf8ByteSize ≠ 32) (readable : IsReadable isLetter s) :
    ofTermWith isLetter term = .text s := by
  have length : term.utf8ByteSize ≠ 2 * Address.keySize := by
    rw [← Utf8.size_toList, spelled.size_eq, Utf8.length_encode, Utf8.size_toList, Address.keySize]
    omega
  rw [ofTermWith, if_neg length, spelled.text_eq]
  exact if_pos (isWritten_iff.mpr readable)

/-- Digits of bytes that encode no readable text are taken for a number, if they denote one. -/
theorem ofTermWith_of_number {bytes : List UInt8} {n : Amount}
    (spelled : Term.Spells term (String.ofList (Hex.encode bytes))) (other : bytes.length ≠ 32)
    (unreadable : ∀ s, Utf8.encode s.toList = bytes → ¬ IsReadable isLetter s)
    (number : Amount.ofText 16 term = .ok n) : ofTermWith isLetter term = .number n := by
  have length : term.utf8ByteSize ≠ 2 * Address.keySize := by
    rw [← Utf8.size_toList, spelled.size_eq, Address.keySize]
    omega
  have means : ofNumberTerm term = .number n := by
    rw [ofNumberTerm, Term.amount_eq_ok_iff.mpr number]
  -- either the bytes encode a text that is not readable, or none
  rw [ofTermWith, if_neg length]
  split
  · next s read =>
    have encoded : Utf8.encode s.toList = bytes :=
      Except.ok.inj ((Term.text_eq_ok_iff.mp read).symm.trans spelled.bytes_eq)
    rw [if_neg fun written => unreadable s encoded (isWritten_iff.mp written), means]
  · exact means

end Meanings

/-- **What arguments are taken for.**  The digits of a readable text that is not as long as a key
are taken for the text.  The digits of an amount are taken for an address if they are as many as
those of a key, for a text if they are those of a readable text, and for the amount otherwise.  A
term of sixty-four digits is taken for the address that they mean. -/
theorem ofTermWith_meaning (isLetter : Char → Bool) :
    (∀ s term, IsReadable isLetter s → s.utf8ByteSize ≠ 32 → Term.Spells term (Term.ofText s) →
      ofTermWith isLetter term = .text s) ∧
    (∀ (v : TokenAmount) (term : String), Term.Spells term v.toHex →
      (v.toHex.length = 64 → ∃ a : Address, a.key = Hex.bigEndian v.units.toNat ∧
        ofTermWith isLetter term = .address a) ∧
      (v.toHex.length < 64 → ∀ s, v.toHex = Term.ofText s → IsReadable isLetter s →
        ofTermWith isLetter term = .text s) ∧
      (v.toHex.length < 64 → (∀ s, v.toHex = Term.ofText s → ¬ IsReadable isLetter s) →
        ofTermWith isLetter term = .number v.units)) ∧
    ∀ term : String, term.length = 64 → (∀ c ∈ term.toList, Hex.isDigit c = true) →
      ∃ a, Term.address term = .ok a ∧ Term.Spells term (Term.ofAddress a) ∧
        ofTermWith isLetter term = .address a := by
  have length : ∀ v : TokenAmount, v.toHex.length = 2 * (Hex.bigEndian v.units.toNat).length := by
    intro v
    rw [TokenAmount.toHex_eq, String.length_ofList, Hex.length_encode]
  refine ⟨fun s term readable other spelled => ofTermWith_of_readable isLetter spelled other readable,
    fun v term spelled => ⟨fun long => ?_, fun short s same readable => ?_, fun short others => ?_⟩,
    fun term long digits => ?_⟩
  · rw [length] at long
    let a : Address := ⟨Hex.bigEndian v.units.toNat, by omega⟩
    rw [TokenAmount.toHex_eq] at spelled
    exact ⟨a, rfl, ofTermWith_of_key isLetter (a := a) spelled⟩
  · rw [same] at spelled short
    refine ofTermWith_of_readable isLetter spelled ?_ readable
    rw [Term.ofText, String.length_ofList, Hex.length_encode, Utf8.length_encode,
      Utf8.size_toList] at short
    omega
  · have number := Amount.ofText_of_spells spelled
    rw [length] at short
    rw [TokenAmount.toHex_eq] at spelled others
    refine ofTermWith_of_number isLetter spelled (by omega) (fun s encoded => ?_) number
    exact others s (by rw [Term.ofText, encoded])
  · rw [← String.length_toList] at long
    obtain ⟨bytes, spelled⟩ := Hex.exists_toLower_eq_encode digits (by rw [long])
    have size : 2 * bytes.length = 64 := by
      rw [← Hex.length_encode, ← spelled, List.length_map, long]
    let a : Address := ⟨bytes, by omega⟩
    have spells : Term.Spells term (Term.ofAddress a) := by
      rw [Term.Spells, Term.ofAddress, String.toList_ofList, spelled]
    exact ⟨a, spells.address_eq, spells, ofTermWith_of_key isLetter spells⟩

/-- A text with a hyphen in capital digits; two amounts, one of which happens to be a text while the
bytes of the other encode none; and the largest amount, which is as long as a key. -/
theorem ofTermWith_meaning_of_capitals :
    let small := TokenAmount.of ⟨0x4142, by decide⟩ 3 "T"
    let large := TokenAmount.of ⟨2000, by decide⟩ 3 "T"
    let key := String.ofList (List.replicate 64 'F')
    (IsReadable isAlphanumeric "a-1" ∧ Term.Spells "612D31" (Term.ofText "a-1") ∧
      ofTerm "612D31" = .text "a-1") ∧
    (small.toHex = Term.ofText "AB" ∧ ofTerm "4142" = .text "AB") ∧
    (Term.Spells "07D0" large.toHex ∧ ofTerm "07D0" = .number large.units) ∧
    ∃ a, Term.address key = .ok a ∧ ofTerm key = .address a := by
  intro small large key
  obtain ⟨texts, amounts, keys⟩ := ofTermWith_meaning isAlphanumeric
  have readable : IsReadable isAlphanumeric "a-1" := by decide +kernel
  have spelled : Term.Spells "612D31" (Term.ofText "a-1") := by decide
  have capitals : Term.Spells "07D0" large.toHex := by decide
  have letters : small.toHex = Term.ofText "AB" := by decide
  have long : key.length = 64 := by
    rw [String.length_ofList, List.length_replicate]
  have digits : ∀ c ∈ key.toList, Hex.isDigit c = true := by
    intro c member
    rw [String.toList_ofList] at member
    rw [List.eq_of_mem_replicate member]
    decide
  have unreadable : ∀ s, large.toHex = Term.ofText s → ¬ IsReadable isAlphanumeric s := by
    intro s same
    have none : Term.text large.toHex = .error .notText := by decide +kernel
    rw [same, Term.text_ofText] at none
    cases none
  refine ⟨⟨readable, spelled, texts "a-1" _ readable (by decide) spelled⟩, ⟨letters, ?_⟩,
    ⟨capitals, (amounts large _ capitals).2.2 (by decide) unreadable⟩, ?_⟩
  · exact (amounts small "4142" (by decide)).2.1 (by decide) "AB" letters (by decide)
  · obtain ⟨a, means, -, taken⟩ := keys key long digits
    exact ⟨a, means, taken⟩

end Argument

end ChainActivity
