import ChainActivity.Json.Basic

/-!
# Reading values out of documents

A record is a document whose members have known names.  It is given as an object, in
which members of other names are passed over, or as a list of the values in the
order of the names, which may end early.

## Main definitions

* `Json.Record` — the members of a record, and `Json.record?`.
* `Json.Record.get`, `Json.Record.need` — the value of a member that may be missing,
  and of one that may not.
* `Json.string?`, `Json.flag?`, `Json.word64?`, `Json.word32?`, `Json.double?`,
  `Json.optional?`, `Json.list?` — the value of a document of one kind.
-/

namespace ChainActivity.Json

/-! ### Values -/

/-- The text that a document is. -/
def string? : Json → Option String
  | .text s => some s
  | _ => none

/-- The truth value that a document is. -/
def flag? : Json → Option Bool
  | .bool b => some b
  | _ => none

/-- The whole number of sixty-four bits that a document is. -/
def word64? : Json → Option UInt64
  | .number (.natural n) => some n
  | _ => none

/-- The whole number of thirty-two bits that a document is. -/
def word32? : Json → Option UInt32
  | .number (.natural n) => if n.toNat < UInt32.size then some n.toUInt32 else none
  | _ => none

/-- The number, of whatever kind, that a document is. -/
def double? : Json → Option Float
  | .number (.natural n) => some (Float.ofNat n.toNat)
  | .number (.negative n) => some (-Float.ofNat n.toNat)
  | .number (.real x) => some x
  | _ => none

/-- A value that may be `null`. -/
def optional? {α : Type} (read : Json → Option α) : Json → Option (Option α)
  | .null => some none
  | v => (read v).map some

/-- The values of the items of a list. -/
def list? {α : Type} (read : Json → Option α) : Json → Option (List α)
  | .list items => items.mapM read
  | _ => none

/-! ### Records -/

/-- The members of a record that are given, each at most once. -/
structure Record where
  entries : List (String × Json)
  deriving Repr

/-- The members with one of some names.  None of these may be given twice, and every
name must have a value. -/
def knownMembers? (names : List String) :
    List (Option String × Json) → Option (List (String × Json))
  | [] => some []
  | (none, _) :: _ => none
  | (some key, v) :: rest => do
    let known ← knownMembers? names rest
    if key ∈ names then
      if known.any (·.1 = key) then none else some ((key, v) :: known)
    else some known

/-- The record whose members have these names. -/
def record? (names : List String) : Json → Option Record
  | .object members => (knownMembers? names members).map Record.mk
  | .list items => if items.length ≤ names.length then some ⟨names.zip items⟩ else none
  | _ => none

namespace Record

/-- The value of a member, or a default if the member is missing. -/
def get {α : Type} (r : Record) (name : String) (read : Json → Option α) (default : α) :
    Option α :=
  match r.entries.lookup name with
  | some v => read v
  | none => some default

/-- The value of a member that must not be missing. -/
def need {α : Type} (r : Record) (name : String) (read : Json → Option α) : Option α :=
  (r.entries.lookup name).bind read

end Record

/-! ### Writing values -/

/-- The object with these members. -/
def ofMembers (members : List (String × Json)) : Json :=
  .object (members.map fun (name, v) => (some name, v))

/-- A whole number of sixty-four bits. -/
def ofWord64 (n : UInt64) : Json :=
  .number (.natural n)

/-- A whole number of thirty-two bits. -/
def ofWord32 (n : UInt32) : Json :=
  .number (.natural n.toUInt64)

/-- A text, or `null`. -/
def ofOption : Option String → Json
  | some s => .text s
  | none => .null

/-- A list of texts. -/
def ofStrings (texts : List String) : Json :=
  .list (texts.map .text)

end ChainActivity.Json
