/-!
# Blank characters

The characters with the Unicode property White_Space.  Payload text is trimmed
of them before it is read, and a payload that holds nothing else counts as
absent.

## Main definitions

* `isBlank` — whether a character is white space.
* `trim` — a text without the white space at its two ends.
* `allBlank` — whether a text holds nothing but white space.
-/

namespace ChainActivity

/-- Whether a character has the property White_Space. -/
def isBlank (c : Char) : Bool :=
  let n := c.toNat
  (9 ≤ n && n ≤ 13) || n == 0x20 || n == 0x85 || n == 0xA0 || n == 0x1680 ||
    (0x2000 ≤ n && n ≤ 0x200A) || n == 0x2028 || n == 0x2029 || n == 0x202F || n == 0x205F ||
    n == 0x3000

/-- A list of characters without the white space at its two ends. -/
def trim (cs : List Char) : List Char :=
  ((cs.dropWhile isBlank).reverse.dropWhile isBlank).reverse

/-- Whether a text holds nothing but white space; the empty text does. -/
def allBlank (s : String) : Bool :=
  s.toList.all isBlank

@[simp] theorem trim_nil : trim [] = [] := rfl

end ChainActivity
