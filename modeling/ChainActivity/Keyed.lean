/-!
# Values under text keys

A finite map from texts to values.  The keys stand in the order in which they were
first inserted.

## Main definitions

* `Keyed` — the map, with `Keyed.empty`, `Keyed.insert` and `Keyed.get?`.
* `Keyed.size` — the number of keys.
-/

namespace ChainActivity

/-- A finite map from texts to values. -/
structure Keyed (α : Type) where
  entries : List (String × α)
  deriving DecidableEq, Repr

namespace Keyed

variable {α : Type}

/-- No key has a value. -/
def empty : Keyed α := ⟨[]⟩

instance : Inhabited (Keyed α) := ⟨empty⟩

/-- Gives a key its value among entries. -/
def insertEntry (key : String) (value : α) : List (String × α) → List (String × α)
  | [] => [(key, value)]
  | (k, v) :: rest => if k = key then (key, value) :: rest else (k, v) :: insertEntry key value rest

/-- The value of a key among entries. -/
def findEntry? (key : String) : List (String × α) → Option α
  | [] => none
  | (k, v) :: rest => if k = key then some v else findEntry? key rest

/-- Gives a key its value. -/
def insert (m : Keyed α) (key : String) (value : α) : Keyed α :=
  ⟨insertEntry key value m.entries⟩

/-- The value of a key. -/
def get? (m : Keyed α) (key : String) : Option α :=
  findEntry? key m.entries

/-- The number of keys. -/
def size (m : Keyed α) : Nat :=
  m.entries.length

/-- The number of keys whose values satisfy a condition. -/
def count (m : Keyed α) (condition : α → Bool) : Nat :=
  m.entries.countP fun entry => condition entry.2

@[simp] theorem get?_empty (key : String) : (empty : Keyed α).get? key = none := rfl

theorem findEntry?_insertEntry (key key' : String) (value : α) (entries : List (String × α)) :
    findEntry? key' (insertEntry key value entries) =
      if key = key' then some value else findEntry? key' entries := by
  induction entries with
  | nil => simp [insertEntry, findEntry?]
  | cons entry rest ih =>
    obtain ⟨k, v⟩ := entry
    by_cases hk : k = key
    · subst hk
      simp only [insertEntry, findEntry?, if_true]
      split <;> rfl
    · by_cases hk' : k = key'
      · subst hk'
        simp [insertEntry, findEntry?, hk, Ne.symm hk]
      · simp [insertEntry, findEntry?, hk, hk', ih]

/-- A key has the value that was inserted last. -/
theorem get?_insert (m : Keyed α) (key key' : String) (value : α) :
    (m.insert key value).get? key' = if key = key' then some value else m.get? key' :=
  findEntry?_insertEntry key key' value m.entries

@[simp] theorem get?_insert_self (m : Keyed α) (key : String) (value : α) :
    (m.insert key value).get? key = some value := by
  simp [get?_insert]

/-- No other key is touched. -/
theorem get?_insert_of_ne (m : Keyed α) {key key' : String} (h : key ≠ key') (value : α) :
    (m.insert key value).get? key' = m.get? key' := by
  simp [get?_insert, h]

/-- Items of other keys change nothing. -/
theorem get?_foldl_insert_of_forall_ne {β : Type} (keyOf : β → String) (valueOf : β → α)
    {items : List β} {key : String} (others : ∀ item ∈ items, keyOf item ≠ key) (m : Keyed α) :
    (items.foldl (fun m item => m.insert (keyOf item) (valueOf item)) m).get? key = m.get? key := by
  induction items generalizing m with
  | nil => rfl
  | cons first rest ih =>
    rw [List.forall_mem_cons] at others
    rw [List.foldl_cons, ih others.2, get?_insert_of_ne _ others.1]

/-- Of all items of a key the last one counts. -/
theorem get?_foldl_insert_append {β : Type} (keyOf : β → String) (valueOf : β → α)
    (before : List β) (last : β) {after : List β}
    (others : ∀ item ∈ after, keyOf item ≠ keyOf last) (m : Keyed α) :
    ((before ++ last :: after).foldl (fun m item => m.insert (keyOf item) (valueOf item)) m).get?
        (keyOf last) = some (valueOf last) := by
  rw [List.foldl_append, List.foldl_cons, get?_foldl_insert_of_forall_ne keyOf valueOf others,
    get?_insert_self]

end Keyed

end ChainActivity
