import ChainActivity.Text.Base64
import ChainActivity.Text.Blank
import Mathlib.Data.List.TakeWhile

/-!
# Reading what was written in base64

The written form of bytes reads back as the bytes, also with white space around it.

## Main statements

* `Base64.decode_encode` — reading the written form of bytes gives the bytes back.
* `trim_append_append` — trimming takes away white space around a text that has none.
* `Base64.not_isBlank_of_mem_encode` — a written form holds no white space.

## Design notes

Three bytes become one group, so that the proofs follow the recursion of
`Base64.encode`.  A group is read in two ways, as the last one or as one before it,
and both ways agree on a group without padding.
-/

namespace ChainActivity

namespace Base64

/-! ### Symbols -/

/-- A written symbol as a byte. -/
def symbolByte (n : Nat) : UInt8 :=
  UInt8.ofNat (symbol n).toNat

private theorem symbol_below :
    ∀ n ∈ List.range 64, String.utf8EncodeChar (symbol n) = [symbolByte n] ∧
      isBlank (symbol n) = false := by
  decide

/-- A written symbol takes one byte. -/
theorem utf8EncodeChar_symbol {n : Nat} (small : n < 64) :
    String.utf8EncodeChar (symbol n) = [symbolByte n] :=
  (symbol_below n (List.mem_range.mpr small)).1

/-- A written symbol is no white space. -/
theorem not_isBlank_symbol {n : Nat} (small : n < 64) : isBlank (symbol n) = false :=
  (symbol_below n (List.mem_range.mpr small)).2

/-- A written symbol stands for its bits wherever it is. -/
theorem sextetAt_symbolByte {n : Nat} (small : n < 64) (offset : Nat) :
    sextetAt (symbolByte n) offset = .ok n := by
  rw [sextetAt, symbolByte, sextet?_symbol small]

/-- A written symbol is no padding. -/
theorem symbolByte_ne_pad {n : Nat} (small : n < 64) : symbolByte n ≠ pad := by
  intro equal
  have bits : sextet? (symbolByte n) = some n := sextet?_symbol small
  rw [equal] at bits
  exact absurd bits (by simp [sextet?, pad])

/-! ### Groups -/

/-- A symbol of the last group is read before what follows it. -/
theorem lastSymbols_symbolByte {n : Nat} (small : n < 64) (offset position : Nat)
    (rest : List UInt8) :
    lastSymbols offset position (symbolByte n :: rest) =
      (lastSymbols offset (position + 1) rest).map (n :: ·) := by
  rw [lastSymbols, if_neg (symbolByte_ne_pad small), sextetAt_symbolByte small]
  cases lastSymbols offset (position + 1) rest <;> rfl

/-- From the third position on, a last group may be filled up with padding. -/
theorem lastSymbols_pad {position : Nat} (late : 2 ≤ position) (offset count : Nat) :
    lastSymbols offset position (List.replicate count pad) = .ok [] := by
  cases count with
  | zero => rfl
  | succ count =>
    have onlyPadding : ¬ (List.replicate count pad).any (· ≠ pad) = true := by simp
    rw [List.replicate_succ, lastSymbols, if_pos rfl,
      if_neg (not_or.mpr ⟨Nat.not_lt.mpr late, onlyPadding⟩)]

/-- A filled last group is read by its symbols, if these leave no bits over. -/
theorem decodeLast_of_lastSymbols {offset : Nat} {group : List UInt8} {symbols : List Nat}
    (read : lastSymbols offset 0 group = .ok symbols) (full : group.length = 4)
    (enough : 2 ≤ symbols.length) (whole : leftover symbols = 0) :
    decodeLast offset group = .ok (bytesOf symbols) := by
  have present : ¬ group.isEmpty = true := by
    intro none
    rw [List.isEmpty_iff.mp none] at full
    cases full
  rw [decodeLast, read]
  simp only [bind, Except.bind, if_neg present, if_neg (Nat.not_lt.mpr enough), full, whole,
    Nat.reduceMod, ne_eq, not_true_eq_false, if_false]

/-- The bytes of a last group of four symbols. -/
theorem decodeLast_four {p q r s : Nat} (hp : p < 64) (hq : q < 64) (hr : r < 64) (hs : s < 64)
    (offset : Nat) :
    decodeLast offset [symbolByte p, symbolByte q, symbolByte r, symbolByte s] =
      .ok (bytesOf [p, q, r, s]) := by
  refine decodeLast_of_lastSymbols ?_ rfl (by simp) rfl
  rw [lastSymbols_symbolByte hp, lastSymbols_symbolByte hq, lastSymbols_symbolByte hr,
    lastSymbols_symbolByte hs]
  rfl

/-- The bytes of a last group of three symbols whose leftover bits are zero. -/
theorem decodeLast_three {p q r : Nat} (hp : p < 64) (hq : q < 64) (hr : r < 64)
    (whole : r % 4 = 0) (offset : Nat) :
    decodeLast offset [symbolByte p, symbolByte q, symbolByte r, pad] =
      .ok (bytesOf [p, q, r]) := by
  refine decodeLast_of_lastSymbols ?_ rfl (by simp) whole
  have padding : lastSymbols offset (0 + 1 + 1 + 1) [pad] = .ok [] :=
    lastSymbols_pad (by decide) offset 1
  rw [lastSymbols_symbolByte hp, lastSymbols_symbolByte hq, lastSymbols_symbolByte hr, padding]
  rfl

/-- The bytes of a last group of two symbols whose leftover bits are zero. -/
theorem decodeLast_two {p q : Nat} (hp : p < 64) (hq : q < 64) (whole : q % 16 = 0)
    (offset : Nat) :
    decodeLast offset [symbolByte p, symbolByte q, pad, pad] = .ok (bytesOf [p, q]) := by
  refine decodeLast_of_lastSymbols ?_ rfl (by simp) whole
  have padding : lastSymbols offset (0 + 1 + 1) [pad, pad] = .ok [] :=
    lastSymbols_pad (by decide) offset 2
  rw [lastSymbols_symbolByte hp, lastSymbols_symbolByte hq, padding]
  rfl

/-- The bytes of a group of four symbols that is not the last. -/
theorem decodeGroup_symbolByte {p q r s : Nat} (hp : p < 64) (hq : q < 64) (hr : r < 64)
    (hs : s < 64) (offset : Nat) :
    decodeGroup offset (symbolByte p) (symbolByte q) (symbolByte r) (symbolByte s) =
      .ok (bytesOf [p, q, r, s]) := by
  simp [decodeGroup, sextetAt_symbolByte hp, sextetAt_symbolByte hq, sextetAt_symbolByte hr,
    sextetAt_symbolByte hs, bind, Except.bind]

/-- A full group at the start of a text is read before the groups behind it. -/
theorem decodeFrom_group {p q r s : Nat} (hp : p < 64) (hq : q < 64) (hr : r < 64) (hs : s < 64)
    (offset : Nat) {rest bytes : List UInt8} (later : decodeFrom (offset + 4) rest = .ok bytes) :
    decodeFrom offset
        (symbolByte p :: symbolByte q :: symbolByte r :: symbolByte s :: rest) =
      .ok (bytesOf [p, q, r, s] ++ bytes) := by
  rw [decodeFrom]
  cases rest with
  | nil =>
    have nothing : bytes = [] := by simpa [decodeFrom, decodeLast, lastSymbols, bind, Except.bind]
      using later.symm
    rw [List.isEmpty_nil, if_pos rfl, decodeLast_four hp hq hr hs, nothing, List.append_nil]
  | cons b rest =>
    rw [List.isEmpty_cons, if_neg Bool.false_ne_true, decodeGroup_symbolByte hp hq hr hs, later]
    rfl

/-! ### Whole texts -/

/-- The written form of three bytes and more as bytes. -/
theorem encode_cons_cons_cons (a b c : UInt8) (rest : List UInt8) :
    Utf8.encode (encode (a :: b :: c :: rest)) =
      symbolByte (a.toNat / 4) :: symbolByte (a.toNat % 4 * 16 + b.toNat / 16) ::
        symbolByte (b.toNat % 16 * 4 + c.toNat / 64) :: symbolByte (c.toNat % 64) ::
          Utf8.encode (encode rest) := by
  have ha : a.toNat < 256 := a.toNat_lt
  have hb : b.toNat < 256 := b.toNat_lt
  have hc : c.toNat < 256 := c.toNat_lt
  simp only [encode, Utf8.encode_cons, List.cons_append, List.nil_append,
    utf8EncodeChar_symbol (show a.toNat / 4 < 64 by omega),
    utf8EncodeChar_symbol (show a.toNat % 4 * 16 + b.toNat / 16 < 64 by omega),
    utf8EncodeChar_symbol (show b.toNat % 16 * 4 + c.toNat / 64 < 64 by omega),
    utf8EncodeChar_symbol (show c.toNat % 64 < 64 by omega)]

/-- The written form of two bytes as bytes. -/
theorem encode_pair (a b : UInt8) :
    Utf8.encode (encode [a, b]) =
      [symbolByte (a.toNat / 4), symbolByte (a.toNat % 4 * 16 + b.toNat / 16),
        symbolByte (b.toNat % 16 * 4), pad] := by
  have ha : a.toNat < 256 := a.toNat_lt
  have hb : b.toNat < 256 := b.toNat_lt
  simp only [encode, Utf8.encode_cons, Utf8.encode_nil, List.cons_append, List.nil_append,
    utf8EncodeChar_symbol (show a.toNat / 4 < 64 by omega),
    utf8EncodeChar_symbol (show a.toNat % 4 * 16 + b.toNat / 16 < 64 by omega),
    utf8EncodeChar_symbol (show b.toNat % 16 * 4 < 64 by omega),
    show String.utf8EncodeChar '=' = [pad] by decide]

/-- The written form of one byte as bytes. -/
theorem encode_singleton (a : UInt8) :
    Utf8.encode (encode [a]) =
      [symbolByte (a.toNat / 4), symbolByte (a.toNat % 4 * 16), pad, pad] := by
  have ha : a.toNat < 256 := a.toNat_lt
  simp only [encode, Utf8.encode_cons, Utf8.encode_nil, List.cons_append, List.nil_append,
    utf8EncodeChar_symbol (show a.toNat / 4 < 64 by omega),
    utf8EncodeChar_symbol (show a.toNat % 4 * 16 < 64 by omega),
    show String.utf8EncodeChar '=' = [pad] by decide]

/-- A written form consists of whole groups. -/
theorem length_encode_mod_four (bytes : List UInt8) :
    (Utf8.encode (encode bytes)).length % 4 = 0 := by
  induction bytes using encode.induct with
  | case1 => rfl
  | case2 a => simp [encode_singleton]
  | case3 a b => simp [encode_pair]
  | case4 a b c rest ih =>
    rw [encode_cons_cons_cons]
    simp only [List.length_cons]
    omega

/-- Reading a written form gives the bytes back, wherever the text starts. -/
theorem decodeFrom_encode (offset : Nat) (bytes : List UInt8) :
    decodeFrom offset (Utf8.encode (encode bytes)) = .ok bytes := by
  induction bytes using encode.induct generalizing offset with
  | case1 => rfl
  | case2 a =>
    have ha : a.toNat < 256 := a.toNat_lt
    rw [encode_singleton, decodeFrom, List.isEmpty_nil, if_pos rfl,
      decodeLast_two (by omega) (by omega) (by omega), bytesOf,
      show a.toNat / 4 * 4 + a.toNat % 4 * 16 / 16 = a.toNat by omega, UInt8.ofNat_toNat]
  | case3 a b =>
    have ha : a.toNat < 256 := a.toNat_lt
    have hb : b.toNat < 256 := b.toNat_lt
    rw [encode_pair, decodeFrom, List.isEmpty_nil, if_pos rfl,
      decodeLast_three (by omega) (by omega) (by omega) (by omega), bytesOf,
      show a.toNat / 4 * 4 + (a.toNat % 4 * 16 + b.toNat / 16) / 16 = a.toNat by omega,
      show (a.toNat % 4 * 16 + b.toNat / 16) % 16 * 16 + b.toNat % 16 * 4 / 4 = b.toNat by omega,
      UInt8.ofNat_toNat, UInt8.ofNat_toNat]
  | case4 a b c rest ih =>
    have ha : a.toNat < 256 := a.toNat_lt
    have hb : b.toNat < 256 := b.toNat_lt
    have hc : c.toNat < 256 := c.toNat_lt
    rw [encode_cons_cons_cons,
      decodeFrom_group (by omega) (by omega) (by omega) (by omega) offset (ih (offset + 4)),
      bytesOf,
      show a.toNat / 4 * 4 + (a.toNat % 4 * 16 + b.toNat / 16) / 16 = a.toNat by omega,
      show (a.toNat % 4 * 16 + b.toNat / 16) % 16 * 16 +
        (b.toNat % 16 * 4 + c.toNat / 64) / 4 = b.toNat by omega,
      show (b.toNat % 16 * 4 + c.toNat / 64) % 4 * 64 + c.toNat % 64 = c.toNat by omega,
      UInt8.ofNat_toNat, UInt8.ofNat_toNat, UInt8.ofNat_toNat]
    rfl

/-- Reading a written form gives the bytes back. -/
theorem decode_encode (bytes : List UInt8) : decode (Utf8.encode (encode bytes)) = .ok bytes := by
  have whole : ¬ (Utf8.encode (encode bytes)).length % 4 = 1 := by
    rw [length_encode_mod_four]
    decide
  rw [decode, strayEnd?, if_neg whole]
  exact decodeFrom_encode 0 bytes

/-- A written form holds no white space. -/
theorem not_isBlank_of_mem_encode {bytes : List UInt8} {c : Char} (member : c ∈ encode bytes) :
    isBlank c = false := by
  have padding : isBlank '=' = false := by decide
  induction bytes using encode.induct with
  | case1 => cases member
  | case2 a =>
    have ha : a.toNat < 256 := a.toNat_lt
    simp only [encode, List.mem_cons, List.not_mem_nil, or_false] at member
    rcases member with rfl | rfl | rfl | rfl
    · exact not_isBlank_symbol (by omega)
    · exact not_isBlank_symbol (by omega)
    · exact padding
    · exact padding
  | case3 a b =>
    have ha : a.toNat < 256 := a.toNat_lt
    have hb : b.toNat < 256 := b.toNat_lt
    simp only [encode, List.mem_cons, List.not_mem_nil, or_false] at member
    rcases member with rfl | rfl | rfl | rfl
    · exact not_isBlank_symbol (by omega)
    · exact not_isBlank_symbol (by omega)
    · exact not_isBlank_symbol (by omega)
    · exact padding
  | case4 a b c rest ih =>
    have ha : a.toNat < 256 := a.toNat_lt
    have hb : b.toNat < 256 := b.toNat_lt
    have hc : c.toNat < 256 := c.toNat_lt
    simp only [encode, List.mem_cons] at member
    rcases member with rfl | rfl | rfl | rfl | later
    · exact not_isBlank_symbol (by omega)
    · exact not_isBlank_symbol (by omega)
    · exact not_isBlank_symbol (by omega)
    · exact not_isBlank_symbol (by omega)
    · exact ih later

end Base64

/-! ### White space around a text -/

/-- A text that does not begin with white space keeps its beginning. -/
theorem dropWhile_isBlank_append {cs : List Char} (dark : ∀ c ∈ cs, isBlank c = false)
    {after : List Char} (blank : ∀ c ∈ after, isBlank c = true) :
    (cs ++ after).dropWhile isBlank = cs ++ if cs.isEmpty then [] else after := by
  cases cs with
  | nil => exact List.dropWhile_eq_nil_iff.mpr blank
  | cons c cs =>
    rw [List.cons_append, List.dropWhile_cons_of_neg (by simp [dark c List.mem_cons_self])]
    rfl

/-- Trimming takes away the white space around a text that has none. -/
theorem trim_append_append {before cs after : List Char}
    (blankBefore : ∀ c ∈ before, isBlank c = true) (dark : ∀ c ∈ cs, isBlank c = false)
    (blankAfter : ∀ c ∈ after, isBlank c = true) : trim (before ++ cs ++ after) = cs := by
  have darkReverse : ∀ c ∈ cs.reverse, isBlank c = false :=
    fun c member => dark c (List.mem_reverse.mp member)
  rw [trim, List.append_assoc, List.dropWhile_append_of_pos blankBefore,
    dropWhile_isBlank_append dark blankAfter]
  cases cs with
  | nil => rfl
  | cons c cs =>
    have blankReverse : ∀ d ∈ after.reverse, isBlank d = true :=
      fun d member => blankAfter d (List.mem_reverse.mp member)
    have none : ∀ d ∈ ([] : List Char), isBlank d = true := by simp
    have front := dropWhile_isBlank_append darkReverse none
    simp only [List.append_nil, ite_self] at front
    rw [List.isEmpty_cons, if_neg Bool.false_ne_true, List.reverse_append,
      List.dropWhile_append_of_pos blankReverse, front, List.reverse_reverse]

end ChainActivity
