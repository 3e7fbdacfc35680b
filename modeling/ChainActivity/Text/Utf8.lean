/-!
# Text as bytes

Payloads and transaction fields are text, their wire forms are bytes.  A text is
read character by character and a byte sequence is a list, so that both sides of
every codec in this library are lists and all recursion is structural.

## Main definitions

* `Utf8.encode` — the bytes of a list of characters.
* `Utf8.decode?` — the text that a byte sequence denotes, if it denotes one.
* `Utf8.size` — the number of bytes of a list of characters.
-/

namespace ChainActivity.Utf8

/-- The UTF-8 bytes of a list of characters. -/
def encode (cs : List Char) : List UInt8 :=
  cs.flatMap String.utf8EncodeChar

/-- The text that bytes denote; `none` when they are not well-formed UTF-8. -/
def decode? (bytes : List UInt8) : Option String :=
  String.fromUTF8? ⟨bytes.toArray⟩

/-- The number of bytes that a list of characters takes. -/
def size (cs : List Char) : Nat :=
  cs.foldr (fun c n => c.utf8Size + n) 0

@[simp] theorem encode_nil : encode [] = [] := rfl

@[simp] theorem encode_cons (c : Char) (cs : List Char) :
    encode (c :: cs) = String.utf8EncodeChar c ++ encode cs := rfl

@[simp] theorem encode_append (cs ds : List Char) :
    encode (cs ++ ds) = encode cs ++ encode ds := by
  simp [encode]

@[simp] theorem size_nil : size [] = 0 := rfl

@[simp] theorem size_cons (c : Char) (cs : List Char) :
    size (c :: cs) = c.utf8Size + size cs := rfl

/-- The size counts the bytes of the encoding. -/
@[simp] theorem length_encode (cs : List Char) : (encode cs).length = size cs := by
  induction cs with
  | nil => rfl
  | cons c cs ih => simp [ih]

/-- The bytes of a text are its own bytes. -/
theorem encode_toList (s : String) : encode s.toList = s.toByteArray.data.toList := by
  conv => rhs; rw [← String.utf8Encode_toList]
  simp [List.utf8Encode, encode]

/-- Reading the bytes of a text gives the text back. -/
@[simp] theorem decode?_encode (s : String) : decode? (encode s.toList) = some s := by
  have bytes : (⟨(encode s.toList).toArray⟩ : ByteArray) = s.toByteArray := by
    rw [encode_toList]
  rw [decode?, bytes, String.fromUTF8?, dif_pos s.isValidUTF8]
  rfl

/-- Only the bytes of a text denote it. -/
theorem encode_of_decode? {bytes : List UInt8} {s : String} (h : decode? bytes = some s) :
    encode s.toList = bytes := by
  rw [decode?, String.fromUTF8?] at h
  split at h
  · simp only [Option.some.injEq] at h
    subst h
    rw [encode_toList]
    simp [String.fromUTF8]
  · simp at h

end ChainActivity.Utf8
