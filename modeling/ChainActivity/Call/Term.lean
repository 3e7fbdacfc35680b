import ChainActivity.Call.Basic
import ChainActivity.Text.Alphanumeric

/-!
# Terms of a call

The text of a call is a list of terms with the sign `@` between them.  Behind its
name stand terms in hexadecimal digits, which mean texts, numbers or addresses.

## Main definitions

* `Term.bytes`, `Term.text`, `Term.word`, `Term.amount`, `Term.address` — the meaning
  of a term, if it has that meaning.
* `Argument` — an argument whose meaning is guessed, and `Argument.ofTerm`.

## Design notes

The mark `0x` in front of the digits is accepted where a term means bytes, and nowhere
else.  A number may have a plus sign in front instead.
-/

namespace ChainActivity

namespace Term

/-- The bytes that a term means. -/
def bytes (term : String) : Except DecodeError (List UInt8) :=
  match Hex.decode (Hex.withoutMark term).toList with
  | .ok bs => .ok bs
  | .error fault => .error (.hex (Hex.withoutMark term) fault)

/-- The text that a term means. -/
def text (term : String) : Except DecodeError String := do
  match Utf8.decode? (← bytes term) with
  | some s => .ok s
  | none => .error .notText

/-- The number of sixty-four bits that a term means; an empty term means zero. -/
def word (term : String) : Except DecodeError UInt64 :=
  if term = "" then .ok 0
  else
    match Numeral.value 16 UInt64.size term.toList with
    | .ok n => .ok (UInt64.ofNat n)
    | .error fault => .error (.number term fault)

/-- The amount that a term means. -/
def amount (term : String) : Except DecodeError Amount :=
  match Amount.ofText 16 term with
  | .ok a => .ok a
  | .error fault => .error (.amount fault)

/-- The address that a term means. -/
def address (term : String) : Except DecodeError Address := do
  let key ← bytes term
  match Address.ofKey? key with
  | some a => .ok a
  | none => .error (.address key.length)

end Term

/-- An argument whose meaning is guessed. -/
inductive Argument where
  | text (value : String)
  | number (value : Amount)
  | address (value : Address)
  deriving DecidableEq, Repr

namespace Argument

/-- Whether a text looks like one that a person wrote: it is not empty and holds
nothing but characters of a class, spaces and hyphens. -/
def isWritten (isLetter : Char → Bool) (s : String) : Bool :=
  !s.toList.isEmpty && s.toList.all fun c => isLetter c || c = ' ' || c = '-'

/-- The meaning of a term of the length of a key: an address, else a text, else the
term itself. -/
def ofKeyTerm (term : String) : Argument :=
  match Term.address term, Term.text term with
  | .ok a, _ => .address a
  | .error _, .ok s => .text s
  | .error _, .error _ => .text term

/-- The meaning of a term that is no text that a person wrote: a number, else the
term itself. -/
def ofNumberTerm (term : String) : Argument :=
  match Term.amount term with
  | .ok n => .number n
  | .error _ => .text term

/-- The meaning of a term, where the letters and digits of texts are given by a
class of characters. -/
def ofTermWith (isLetter : Char → Bool) (term : String) : Argument :=
  if term.utf8ByteSize = 2 * Address.keySize then ofKeyTerm term
  else
    match Term.text term with
    | .ok s => if isWritten isLetter s then .text s else ofNumberTerm term
    | .error _ => ofNumberTerm term

/-- The meaning of a term. -/
def ofTerm (term : String) : Argument :=
  ofTermWith isAlphanumeric term

end Argument

end ChainActivity
