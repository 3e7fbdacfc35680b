import ChainActivity.Text.Bech32

/-!
# Addresses

An account is known by its key.  People see the key as an address: its checked text
form under the human-readable part of the chain.

## Main definitions

* `Address` — the key of an account.
* `Address.ofKey?` — bytes as a key, if they are as many as a key has.
* `Address.toText` — the text form of a key.
-/

namespace ChainActivity

/-- The key of an account. -/
structure Address where
  key : List UInt8
  length_key : key.length = 32
  deriving DecidableEq, Repr

namespace Address

/-- The number of bytes of a key. -/
def keySize : Nat := 32

/-- The first part of every address. -/
def humanPart : List Char := "erd".toList

/-- Bytes as a key, if they are as many as a key has. -/
def ofKey? (bytes : List UInt8) : Option Address :=
  if h : bytes.length = 32 then some ⟨bytes, h⟩ else none

/-- The text form of a key. -/
def toText (a : Address) : String :=
  String.ofList (Bech32.encode humanPart a.key)

@[ext] theorem ext {a b : Address} (h : a.key = b.key) : a = b := by
  cases a; cases b; cases h; rfl

@[simp] theorem ofKey?_key (a : Address) : ofKey? a.key = some a :=
  dif_pos a.length_key

/-- Bytes become the address of that key and no other. -/
theorem ofKey?_eq_some_iff {bytes : List UInt8} {a : Address} :
    ofKey? bytes = some a ↔ bytes = a.key := by
  constructor
  · intro h
    rw [ofKey?] at h
    split at h
    · cases h; rfl
    · cases h
  · rintro rfl
    exact ofKey?_key a

/-- Bytes are no key exactly when their number is not that of a key. -/
theorem ofKey?_eq_none_iff {bytes : List UInt8} :
    ofKey? bytes = none ↔ bytes.length ≠ keySize := by
  simp [ofKey?, keySize]

end Address

end ChainActivity
