import ChainActivity.Json.Token
import ChainActivity.Json.Writer
import ChainActivity.Proofs.Json.Numerals

/-!
# Words and quoted texts as tokens

A lexer that reads what was written gives the tokens that were meant: a numeral is one
token, and a quoted text is the text again, whatever characters it has.

## Main definitions

* `Json.Lexer.settle?` — a lexer after the end of the word in which it stands.
* `Json.Lexer.Reads`, `Json.Lexer.Closes` — characters that give tokens, a word perhaps
  still open at their end, or certainly none.

## Main statements

* `Json.Lexer.Closes.append`, `Json.Lexer.Reads.separated` — characters behind each other.
* `Json.Lexer.reads_written` — a numeral is one token.
* `Json.Lexer.closes_quoted` — a text in quotes is that text.

## Design notes

A word has no end of its own: the lexer sees that it is complete by the character behind
it.  What follows a word is therefore required to begin with no word character, and every
statement is about a lexer with arbitrary tokens before it.
-/

namespace ChainActivity.Json

/-! ### Words -/

theorem isWordChar_of_isDigit {c : Char} (digit : c.isDigit = true) : isWordChar c = true := by
  have alphanumeric : c.isAlphanum = true := by rw [Char.isAlphanum, digit, Bool.or_true]
  rw [isWordChar, alphanumeric]
  rfl

/-- A numeral has only characters of words, and at least one. -/
theorem Numeral.isWordChar_of_mem_written {n : Numeral} (wellFormed : n.IsWellFormed) :
    n.written ≠ [] ∧ ∀ c ∈ n.written, isWordChar c = true := by
  have digits {ds : List Char} (only : AreDigits ds) : ∀ c ∈ ds, isWordChar c = true :=
    fun c member => isWordChar_of_isDigit (only.2 c member)
  have fraction : ∀ c ∈ fractionText n.fraction, isWordChar c = true := by
    rcases found : n.fraction with _ | ds
    · exact fun _ member => nomatch member
    · exact List.forall_mem_cons.mpr ⟨by decide, digits (wellFormed.fraction ds found)⟩
  have exponent : ∀ c ∈ exponentText n.exponent, isWordChar c = true := by
    rcases found : n.exponent with _ | ⟨negative, ds⟩
    · exact fun _ member => nomatch member
    · have sign : isWordChar (if negative then '-' else '+') = true := by
        cases negative <;> decide
      exact List.forall_mem_cons.mpr ⟨by decide,
        List.forall_mem_cons.mpr ⟨sign, digits (wellFormed.exponent _ found)⟩⟩
  have sign : ∀ c ∈ (if n.negative then ['-'] else [] : List Char), isWordChar c = true := by
    cases n.negative
    · exact fun _ member => nomatch member
    · exact List.forall_mem_singleton.mpr (by decide)
  rw [written]
  refine ⟨by simp [wellFormed.whole.1], ?_⟩
  simp only [List.forall_mem_append]
  exact ⟨sign, digits wellFormed.whole, fraction, exponent⟩

/-- A numeral is none of the names. -/
theorem Token.ofWord?_written {n : Numeral} (wellFormed : n.IsWellFormed) :
    ofWord? n.written = some (.number n.value?) := by
  have read := Numeral.ofLexeme?_written wellFormed
  have nameless {name : String} (other : Numeral.ofLexeme? name.toList = none) :
      n.written ≠ name.toList := by
    intro same
    rw [same, other] at read
    cases read
  rw [ofWord?, if_neg (nameless (by decide)), if_neg (nameless (by decide)),
    if_neg (nameless (by decide)), read]
  rfl

namespace Lexer

/-- A character of words between two tokens begins a word. -/
theorem stepBetween_of_isWordChar {c : Char} (wordly : isWordChar c = true) (ts : List Token) :
    stepBetween ts c = some ⟨.word [c], ts⟩ := by
  have space : isSpace c = false := by
    rw [Bool.eq_false_iff]
    intro blank
    simp only [isSpace, Bool.or_eq_true, decide_eq_true_eq] at blank
    rcases blank with ((rfl | rfl) | rfl) | rfl <;> exact absurd wordly (by decide)
  have quote : c ≠ '"' := by
    rintro rfl
    exact absurd wordly (by decide)
  rw [stepBetween, space, if_neg Bool.false_ne_true, if_neg quote, if_pos wordly]

/-- In a word the lexer collects the characters of words. -/
theorem foldlM_word {cs : List Char} (wordly : ∀ c ∈ cs, isWordChar c = true)
    (w : List Char) (ts : List Token) :
    cs.foldlM step ⟨.word w, ts⟩ = some ⟨.word (cs.reverse ++ w), ts⟩ := by
  induction cs generalizing w with
  | nil => rfl
  | cons c cs ih =>
    have first : step ⟨.word w, ts⟩ c = some ⟨.word (c :: w), ts⟩ :=
      if_pos (wordly c List.mem_cons_self)
    rw [List.foldlM_cons, first]
    change cs.foldlM step ⟨.word (c :: w), ts⟩ = _
    rw [ih fun d member => wordly d (List.mem_cons_of_mem c member)]
    simp

/-! ### Characters that give tokens -/

/-- A lexer after the end of the word in which it stands. -/
def settle? (l : Lexer) : Option Lexer :=
  match l.mode with
  | .between => some l
  | .word w => (Token.ofWord? w.reverse).map fun t => ⟨.between, t :: l.reversed⟩
  | _ => none

/-- Whether characters give tokens; a word at their end may still be open. -/
def Reads (cs : List Char) (ts : List Token) : Prop :=
  ∀ earlier, ∃ l, cs.foldlM step ⟨.between, earlier⟩ = some l ∧
    l.settle? = some ⟨.between, ts.reverse ++ earlier⟩

/-- Whether characters give tokens and leave no word open. -/
def Closes (cs : List Char) (ts : List Token) : Prop :=
  ∀ earlier, cs.foldlM step ⟨.between, earlier⟩ = some ⟨.between, ts.reverse ++ earlier⟩

/-- Behind a word that is complete the lexer goes on as between two tokens. -/
theorem step_of_settle? {l m : Lexer} {c : Char} (settled : l.settle? = some m)
    (other : isWordChar c = false) : l.step c = m.step c := by
  obtain ⟨mode, reversed⟩ := l
  rw [settle?] at settled
  split at settled
  · obtain rfl := Option.some.inj settled
    rfl
  · next w inWord =>
    obtain ⟨t, word, rfl⟩ := Option.map_eq_some_iff.mp settled
    dsimp only at inWord
    subst inWord
    simp only [step, other, word, Bool.false_eq_true, if_false, Option.bind_some]
  · cases settled

theorem Closes.reads {cs : List Char} {ts : List Token} (closes : Closes cs ts) : Reads cs ts :=
  fun earlier => ⟨_, closes earlier, rfl⟩

theorem Closes.append {cs ds : List Char} {ts us : List Token} (first : Closes cs ts)
    (second : Closes ds us) : Closes (cs ++ ds) (ts ++ us) := by
  intro earlier
  rw [List.foldlM_append, first earlier]
  change ds.foldlM step ⟨.between, ts.reverse ++ earlier⟩ = _
  rw [second, List.reverse_append, List.append_assoc]

theorem Closes.append_reads {cs ds : List Char} {ts us : List Token} (first : Closes cs ts)
    (second : Reads ds us) : Reads (cs ++ ds) (ts ++ us) := by
  intro earlier
  obtain ⟨l, read, settled⟩ := second (ts.reverse ++ earlier)
  refine ⟨l, ?_, by rw [settled, List.reverse_append, List.append_assoc]⟩
  rw [List.foldlM_append, first earlier]
  exact read

/-- What follows a word must not go on with it. -/
theorem Reads.append {cs ds : List Char} {c : Char} {ts us : List Token} (first : Reads cs ts)
    (other : isWordChar c = false) (second : Closes (c :: ds) us) :
    Closes (cs ++ c :: ds) (ts ++ us) := by
  intro earlier
  obtain ⟨l, read, settled⟩ := first earlier
  have rest := second (ts.reverse ++ earlier)
  rw [List.foldlM_cons, ← step_of_settle? settled other] at rest
  rw [List.foldlM_append, read]
  change (c :: ds).foldlM step l = _
  rw [List.foldlM_cons, rest, List.reverse_append, List.append_assoc]

/-- What is read of a whole text. -/
theorem Reads.tokens? {cs : List Char} {ts : List Token} (reads : Reads cs ts) :
    tokens? cs = some ts := by
  obtain ⟨⟨mode, reversed⟩, read, settled⟩ := reads []
  have finished : finish? ⟨mode, reversed⟩ = some ts := by
    rw [settle?] at settled
    split at settled
    · cases settled
      simp [finish?]
    · next w inWord =>
      obtain ⟨t, word, same⟩ := Option.map_eq_some_iff.mp settled
      dsimp only at inWord
      subst inWord
      simp only [mk.injEq, true_and, List.append_nil] at same
      simp only [finish?, word, Option.map_some, same, List.reverse_reverse]
    · cases settled
  rw [Json.tokens?, start, read]
  exact finished

/-! ### Tokens -/

theorem reads_word {cs : List Char} {t : Token} (present : cs ≠ [])
    (wordly : ∀ c ∈ cs, isWordChar c = true) (word : Token.ofWord? cs = some t) : Reads cs [t] := by
  intro earlier
  obtain ⟨c, rest, rfl⟩ := List.exists_cons_of_ne_nil present
  rw [List.forall_mem_cons] at wordly
  refine ⟨⟨.word (rest.reverse ++ [c]), earlier⟩, ?_, ?_⟩
  · rw [List.foldlM_cons]
    change (stepBetween earlier c).bind _ = _
    rw [stepBetween_of_isWordChar wordly.1]
    -- the word stays open, because no character behind it has been seen
    exact foldlM_word wordly.2 [c] earlier
  · simp [settle?, word]

theorem reads_name {name : String} {t : Token} (present : name.toList ≠ [])
    (wordly : name.toList.all isWordChar = true) (word : Token.ofWord? name.toList = some t) :
    Reads name.toList [t] :=
  reads_word present (List.all_eq_true.mp wordly) word

/-- A numeral is one token. -/
theorem reads_written {n : Numeral} (wellFormed : n.IsWellFormed) :
    Reads n.written [.number n.value?] :=
  have ⟨present, wordly⟩ := Numeral.isWordChar_of_mem_written wellFormed
  reads_word present wordly (Token.ofWord?_written wellFormed)

/-- Punctuation is one token, and belongs to no word. -/
theorem closes_punctuation {c : Char} {t : Token} (meant : Token.ofPunctuation? c = some t) :
    isWordChar c = false ∧ Closes [c] [t] := by
  have marks : c = '\x7b' ∨ c = '\x7d' ∨ c = '[' ∨ c = ']' ∨ c = ':' ∨ c = ',' := by
    by_contra other
    simp only [not_or] at other
    simp [Token.ofPunctuation?, other] at meant
  rcases marks with rfl | rfl | rfl | rfl | rfl | rfl <;> cases meant <;>
    exact ⟨by decide, fun _ => rfl⟩

theorem Reads.punctuated {cs : List Char} {c : Char} {ts : List Token} {t : Token}
    (first : Reads cs ts) (meant : Token.ofPunctuation? c = some t) :
    Closes (cs ++ [c]) (ts ++ [t]) :=
  first.append (closes_punctuation meant).1 (closes_punctuation meant).2

theorem Reads.separated {cs ds : List Char} {c : Char} {ts us : List Token} {t : Token}
    (first : Reads cs ts) (meant : Token.ofPunctuation? c = some t) (second : Reads ds us) :
    Reads (cs ++ c :: ds) (ts ++ t :: us) := by
  rw [List.append_cons cs, List.append_cons ts]
  exact (first.punctuated meant).append_reads second

end Lexer

/-! ### Quoted texts -/

/-- Whether a piece of a quoted text stands for a character. -/
def Piece.StandsFor (p : Piece) (c : Char) : Prop :=
  ∀ rest earlier, textOfPieces rest (p :: earlier) = textOfPieces (c :: rest) earlier

theorem Piece.standsFor_char (c : Char) : (Piece.char c).StandsFor c := fun _ _ => rfl

/-- A unit that is no half of a pair stands for its character. -/
theorem Piece.standsFor_unit {code : Nat} (small : code < 0xd800) :
    (Piece.unit code).StandsFor (Char.ofNat code) := by
  have high : isHighHalf code = false := by
    rw [isHighHalf, Bool.and_eq_false_iff]
    exact .inl (decide_eq_false (by omega))
  have low : isLowHalf code = false := by
    rw [isLowHalf, Bool.and_eq_false_iff]
    exact .inl (decide_eq_false (by omega))
  intro rest earlier
  rcases earlier with _ | ⟨_ | _, earlier⟩ <;> simp [textOfPieces, high, low]

theorem unitDigit?_digitChar {n : Nat} (small : n < 16) :
    unitDigit? (Nat.digitChar n) = some n := by
  have each : ∀ digit : Fin 16, unitDigit? (Nat.digitChar digit) = some digit.val := by decide
  exact each ⟨n, small⟩

namespace Lexer

/-- A character that is written between quotes is read as one piece. -/
theorem exists_piece (c : Char) :
    ∃ p : Piece, p.StandsFor c ∧ ∀ pieces ts,
      (escaped c).foldlM step ⟨.quoted pieces, ts⟩ = some ⟨.quoted (p :: pieces), ts⟩ := by
  by_cases short : c ∈ ['"', '\\', '\x08', '\x0c', '\n', '\r', '\t']
  · refine ⟨.char c, Piece.standsFor_char c, fun pieces ts => ?_⟩
    simp only [List.mem_cons, List.not_mem_nil, or_false] at short
    rcases short with rfl | rfl | rfl | rfl | rfl | rfl | rfl <;> rfl
  · simp only [List.mem_cons, List.not_mem_nil, or_false, not_or] at short
    obtain ⟨quote, backslash, backspace, feed, newline, back, tab⟩ := short
    rw [escaped, if_neg quote, if_neg backslash, if_neg backspace, if_neg feed, if_neg newline,
      if_neg back, if_neg tab]
    split
    · next control =>
      -- a control character without a short escape is written by its code
      have below : c.toNat < 32 := control
      have meant : (Piece.unit c.toNat).StandsFor (Char.ofNat c.toNat) :=
        Piece.standsFor_unit (by omega)
      rw [Char.ofNat_toNat] at meant
      refine ⟨.unit c.toNat, meant, fun pieces ts => ?_⟩
      have high := unitDigit?_digitChar (n := c.toNat / 16) (by omega)
      have low := unitDigit?_digitChar (n := c.toNat % 16) (by omega)
      have zero : unitDigit? '0' = some 0 := by decide
      have code : c.toNat / 16 * 16 + c.toNat % 16 = c.toNat := Nat.div_add_mod' _ 16
      simp [step, zero, high, low, code]
    · next plain => exact ⟨.char c, Piece.standsFor_char c, fun pieces ts => by
        simp [step, quote, backslash, plain]⟩

/-- So are all characters of a text, and they are collected. -/
theorem exists_pieces (cs : List Char) (earlier : List Piece) (ts : List Token) :
    ∃ pieces, (cs.flatMap escaped).foldlM step ⟨.quoted earlier, ts⟩ = some ⟨.quoted pieces, ts⟩ ∧
      ∀ rest, textOfPieces rest pieces = textOfPieces (cs ++ rest) earlier := by
  induction cs generalizing earlier with
  | nil => exact ⟨earlier, rfl, fun _ => rfl⟩
  | cons c cs ih =>
    obtain ⟨p, meant, first⟩ := exists_piece c
    obtain ⟨pieces, read, text⟩ := ih (p :: earlier)
    refine ⟨pieces, ?_, fun rest => (text rest).trans (meant _ _)⟩
    rw [List.flatMap_cons, List.foldlM_append, first]
    exact read

/-- A text in quotes is read as that text. -/
theorem closes_quoted (cs : List Char) : Closes (quoted cs) [.text (some (String.ofList cs))] := by
  intro ts
  obtain ⟨pieces, read, text⟩ := exists_pieces cs [] ts
  have whole : textOfPieces [] pieces = some cs := by rw [text, List.append_nil, textOfPieces]
  rw [quoted, List.foldlM_cons]
  change (cs.flatMap escaped ++ ['"']).foldlM step ⟨.quoted [], ts⟩ = _
  rw [List.foldlM_append, read]
  simp [step, whole]

end Lexer

end ChainActivity.Json
