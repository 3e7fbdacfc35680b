import ChainActivity.Json.Basic

/-!
# Tokens of JSON text

JSON text is read in two steps: characters to tokens here, tokens to a document in
`ChainActivity.Json.Reader`.  Both steps are folds of a step function over a list.

## Main definitions

* `Json.Token` — brackets, punctuation, and literals with their values.
* `Json.Lexer` — what has been read of a text, and `Json.Lexer.step`.
* `Json.tokens?` — the tokens of a text; `none` if it has a fault.

## Design notes

Words (the three names and the numbers) are read as the longest run of word
characters.  No token may follow a word without a separator that is no word
character, so that this accepts the same texts as reading each word by its own
grammar.

A quoted text is collected backwards, as pieces.  An escape of the form `\u` gives a
sixteen-bit unit, and `textOfPieces` pairs the units up when the text ends.
-/

namespace ChainActivity.Json

/-- A token.  The value of a literal is missing if it has none. -/
inductive Token where
  | openObject
  | closeObject
  | openList
  | closeList
  | colon
  | comma
  | null
  | bool (value : Bool)
  | number (value : Option Number)
  | text (value : Option String)
  deriving Repr

/-- A part of a quoted text. -/
inductive Piece where
  /-- A character, given as itself or by a short escape. -/
  | char (c : Char)
  /-- A sixteen-bit unit, given by its four digits. -/
  | unit (code : Nat)
  deriving DecidableEq, Repr

/-- Where in the text a lexer stands. -/
inductive Lexer.Mode where
  /-- Between two tokens. -/
  | between
  /-- In a word, with its characters so far, last one first. -/
  | word (reversed : List Char)
  /-- In a quoted text, with its pieces so far, last one first. -/
  | quoted (reversed : List Piece)
  /-- Behind a backslash in a quoted text. -/
  | escaped (reversed : List Piece)
  /-- In the digits of a unit: how many are read, and their value. -/
  | unit (reversed : List Piece) (count : Nat) (code : Nat)
  deriving Repr

/-- A lexer: where it stands, and the tokens so far, last one first. -/
structure Lexer where
  mode : Lexer.Mode
  reversed : List Token
  deriving Repr

/-! ### Literals -/

/-- The characters that separate tokens and mean nothing. -/
def isSpace (c : Char) : Bool :=
  c = ' ' || c = '\t' || c = '\n' || c = '\r'

/-- The characters of words. -/
def isWordChar (c : Char) : Bool :=
  c.isAlphanum || c = '-' || c = '+' || c = '.'

/-- The token that a word stands for. -/
def Token.ofWord? (word : List Char) : Option Token :=
  if word = "null".toList then some .null
  else if word = "true".toList then some (.bool true)
  else if word = "false".toList then some (.bool false)
  else (Numeral.ofLexeme? word).map fun n => .number n.value?

/-- The punctuation that a character stands for. -/
def Token.ofPunctuation? (c : Char) : Option Token :=
  if c = '{' then some .openObject
  else if c = '}' then some .closeObject
  else if c = '[' then some .openList
  else if c = ']' then some .closeList
  else if c = ':' then some .colon
  else if c = ',' then some .comma
  else none

/-- The character that a short escape stands for. -/
def escape? (c : Char) : Option Char :=
  if c = '"' ∨ c = '\\' ∨ c = '/' then some c
  else if c = 'b' then some '\x08'
  else if c = 'f' then some '\x0c'
  else if c = 'n' then some '\n'
  else if c = 'r' then some '\r'
  else if c = 't' then some '\t'
  else none

/-- The value of a hexadecimal digit. -/
def unitDigit? (c : Char) : Option Nat :=
  if c.isDigit then some (c.toNat - '0'.toNat)
  else if 'a' ≤ c ∧ c ≤ 'f' then some (c.toNat - 'a'.toNat + 10)
  else if 'A' ≤ c ∧ c ≤ 'F' then some (c.toNat - 'A'.toNat + 10)
  else none

/-- Whether a unit is the first half of a pair. -/
def isHighHalf (code : Nat) : Bool :=
  0xd800 ≤ code && code < 0xdc00

/-- Whether a unit is the second half of a pair. -/
def isLowHalf (code : Nat) : Bool :=
  0xdc00 ≤ code && code < 0xe000

/-- The character of a pair of halves. -/
def pairChar (high low : Nat) : Char :=
  Char.ofNat (0x10000 + (high - 0xd800) * 0x400 + (low - 0xdc00))

/-- The text of pieces given last one first, in front of `rest`; `none` if a half
stands alone. -/
def textOfPieces (rest : List Char) : List Piece → Option (List Char)
  | [] => some rest
  | .char c :: earlier => textOfPieces (c :: rest) earlier
  | .unit low :: .unit high :: earlier =>
    if isHighHalf high && isLowHalf low then textOfPieces (pairChar high low :: rest) earlier
    else if isHighHalf low || isLowHalf low then none
    else textOfPieces (Char.ofNat low :: rest) (.unit high :: earlier)
  | .unit code :: earlier =>
    if isHighHalf code || isLowHalf code then none
    else textOfPieces (Char.ofNat code :: rest) earlier

/-! ### Steps -/

namespace Lexer

/-- Nothing has been read. -/
def start : Lexer := ⟨.between, []⟩

/-- Reads a character between two tokens. -/
def stepBetween (reversed : List Token) (c : Char) : Option Lexer :=
  if isSpace c then some ⟨.between, reversed⟩
  else if c = '"' then some ⟨.quoted [], reversed⟩
  else if isWordChar c then some ⟨.word [c], reversed⟩
  else (Token.ofPunctuation? c).map fun t => ⟨.between, t :: reversed⟩

/-- Reads one character. -/
def step (l : Lexer) (c : Char) : Option Lexer :=
  match l.mode with
  | .between => stepBetween l.reversed c
  | .word w =>
    if isWordChar c then some ⟨.word (c :: w), l.reversed⟩
    else (Token.ofWord? w.reverse).bind fun t => stepBetween (t :: l.reversed) c
  | .quoted pieces =>
    if c = '"' then
      some ⟨.between, .text ((textOfPieces [] pieces).map String.ofList) :: l.reversed⟩
    else if c = '\\' then some ⟨.escaped pieces, l.reversed⟩
    else if c < ' ' then none
    else some ⟨.quoted (.char c :: pieces), l.reversed⟩
  | .escaped pieces =>
    if c = 'u' then some ⟨.unit pieces 0 0, l.reversed⟩
    else (escape? c).map fun e => ⟨.quoted (.char e :: pieces), l.reversed⟩
  | .unit pieces count code =>
    (unitDigit? c).map fun d =>
      if count = 3 then ⟨.quoted (.unit (code * 16 + d) :: pieces), l.reversed⟩
      else ⟨.unit pieces (count + 1) (code * 16 + d), l.reversed⟩

/-- The tokens of a text that ends here. -/
def finish? (l : Lexer) : Option (List Token) :=
  match l.mode with
  | .between => some l.reversed.reverse
  | .word w => (Token.ofWord? w.reverse).map fun t => (t :: l.reversed).reverse
  | _ => none

end Lexer

/-- The tokens of a text. -/
def tokens? (cs : List Char) : Option (List Token) :=
  (cs.foldlM Lexer.step Lexer.start).bind Lexer.finish?

end ChainActivity.Json
