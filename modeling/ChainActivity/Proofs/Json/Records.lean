import ChainActivity.Json.Record
import Mathlib.Data.List.Nodup
import Mathlib.Data.List.Perm.Basic

/-!
# Records out of rearranged objects

The members of a record are looked up by their names.  So neither their order in an object
matters nor what stands between them under other names.

## Main definitions

* `Json.named` — members as an object holds them.
* `Json.known?` — a member of an object as a member of a record.
* `Json.IsRecord` — whether a document is a record with these names.
* `Json.member?`, `Json.given?` — the value of a member in either form of a record, and what is
  read of a member that may be missing.

## Main statements

* `Json.knownMembers?_eq_filterMap` — which members of an object are known.
* `Json.exists_knownMembers?` — the members of a record are found in every rearrangement.
* `Json.exists_record?_iff`, `Json.lookup_entries_of_record?` — which documents are records, and
  where their members stand.
* `Json.isReadable_ofStrings`, `Json.depth_ofStrings` and their like — the shape of what is
  written.
* `Json.list?_ofStrings` and its like — what is written is read.
-/

namespace ChainActivity.Json

/-! ### Members by name -/

/-- Members as an object holds them. -/
def named (members : List (String × Json)) : List (Option String × Json) :=
  members.map fun (name, v) => (some name, v)

/-- A member of an object as a member of a record with these names. -/
def known? (names : List String) (m : Option String × Json) : Option (String × Json) :=
  m.1.bind fun name => if name ∈ names then some (name, m.2) else none

/-- The known members are found if none of them is given twice. -/
theorem knownMembers?_eq_filterMap {names : List String} {ms : List (Option String × Json)}
    (complete : ∀ m ∈ ms, m.1.isSome = true)
    (once : ((ms.filterMap (known? names)).map Prod.fst).Nodup) :
    knownMembers? names ms = some (ms.filterMap (known? names)) := by
  induction ms with
  | nil => rfl
  | cons m ms ih =>
    rw [List.forall_mem_cons] at complete
    obtain ⟨_ | name, v⟩ := m
    · exact absurd complete.1 Bool.false_ne_true
    · by_cases listed : name ∈ names
      · have found : known? names (some name, v) = some (name, v) := if_pos listed
        rw [List.filterMap_cons_some found, List.map_cons, List.nodup_cons] at once
        have new : (ms.filterMap (known? names)).any (fun entry => entry.1 = name) = false := by
          rw [List.any_eq_false]
          intro entry member same
          have key : entry.1 ∈ (ms.filterMap (known? names)).map Prod.fst :=
            List.mem_map_of_mem member
          rw [of_decide_eq_true same] at key
          exact once.1 key
        rw [knownMembers?, ih complete.2 once.2, List.filterMap_cons_some found]
        simp [listed, new]
      · have passed : known? names (some name, v) = none := if_neg listed
        rw [List.filterMap_cons_none passed] at once ⊢
        rw [knownMembers?, ih complete.2 once]
        simp [listed]

theorem filterMap_known?_named {names : List String} {members : List (String × Json)}
    (listed : ∀ m ∈ members, m.1 ∈ names) : (named members).filterMap (known? names) = members := by
  induction members with
  | nil => rfl
  | cons m members ih =>
    rw [List.forall_mem_cons] at listed
    have found : known? names (some m.1, m.2) = some m := if_pos listed.1
    exact (List.filterMap_cons_some found).trans (congrArg (m :: ·) (ih listed.2))

/-- A name that is given once leads to its value. -/
theorem lookup_of_mem {members : List (String × Json)} (once : (members.map Prod.fst).Nodup)
    {m : String × Json} (member : m ∈ members) : members.lookup m.1 = some m.2 := by
  obtain ⟨before, after, rfl⟩ := List.append_of_mem member
  rw [List.lookup_eq_some_iff]
  refine ⟨before, after, rfl, fun other earlier => ?_⟩
  rw [List.map_append, List.map_cons, List.nodup_append] at once
  rw [bne_iff_ne]
  exact (once.2.2 other.1 (List.mem_map_of_mem earlier) m.1 List.mem_cons_self).symm

/-- The members of a record are found in every rearrangement of them, with others between. -/
theorem exists_knownMembers? {names : List String} {members : List (String × Json)}
    {others ms : List (Option String × Json)} (listed : ∀ m ∈ members, m.1 ∈ names)
    (once : (members.map Prod.fst).Nodup) (foreign : ∀ m ∈ others, ∃ name ∉ names, m.1 = some name)
    (rearranged : ms.Perm (named members ++ others)) :
    ∃ known, knownMembers? names ms = some known ∧ ∀ m ∈ members, known.lookup m.1 = some m.2 := by
  have passed : others.filterMap (known? names) = [] := by
    rw [List.filterMap_eq_nil_iff]
    intro m member
    obtain ⟨name, unlisted, same⟩ := foreign m member
    rw [known?, same]
    exact if_neg unlisted
  have found : (ms.filterMap (known? names)).Perm members := by
    have moved := rearranged.filterMap (known? names)
    rwa [List.filterMap_append, filterMap_known?_named listed, passed, List.append_nil] at moved
  have unique : ((ms.filterMap (known? names)).map Prod.fst).Nodup :=
    (found.map Prod.fst).nodup_iff.mpr once
  refine ⟨_, knownMembers?_eq_filterMap (fun m member => ?_) unique,
    fun m member => lookup_of_mem unique (found.mem_iff.mpr member)⟩
  rcases List.mem_append.mp (rearranged.mem_iff.mp member) with own | other
  · obtain ⟨entry, -, rfl⟩ := List.mem_map.mp own
    rfl
  · obtain ⟨name, -, same⟩ := foreign m other
    rw [same]
    rfl

/-! ### Members of any document -/

/-- Members are known only if each has a name and none of the known ones is given twice. -/
theorem of_knownMembers?_eq_some {names : List String} {ms : List (Option String × Json)}
    {known : List (String × Json)} (found : knownMembers? names ms = some known) :
    (∀ m ∈ ms, m.1.isSome = true) ∧ ((ms.filterMap (known? names)).map Prod.fst).Nodup ∧
      known = ms.filterMap (known? names) := by
  induction ms generalizing known with
  | nil =>
    cases found
    exact ⟨fun m member => absurd member List.not_mem_nil, List.nodup_nil, rfl⟩
  | cons m ms ih =>
    obtain ⟨_ | name, v⟩ := m
    · cases found
    · rw [knownMembers?, Option.bind_eq_bind, Option.bind_eq_some_iff] at found
      obtain ⟨others, left, found⟩ := found
      obtain ⟨complete, once, rfl⟩ := ih left
      have named : ∀ m ∈ (some name, v) :: ms, m.1.isSome = true :=
        List.forall_mem_cons.mpr ⟨rfl, complete⟩
      by_cases listed : name ∈ names
      · have entry : known? names (some name, v) = some (name, v) := if_pos listed
        rw [if_pos listed] at found
        split at found
        · cases found
        · next new =>
          cases found
          refine ⟨named, ?_, (List.filterMap_cons_some entry).symm⟩
          rw [List.filterMap_cons_some entry, List.map_cons, List.nodup_cons]
          refine ⟨fun member => new ?_, once⟩
          obtain ⟨other, held, same⟩ := List.mem_map.mp member
          exact List.any_eq_true.mpr ⟨other, held, decide_eq_true same⟩
      · have passed : known? names (some name, v) = none := if_neg listed
        rw [if_neg listed] at found
        cases found
        rw [List.filterMap_cons_none passed]
        exact ⟨named, once, rfl⟩

/-- A listed name leads to the same value among the known members as among all. -/
theorem lookup_filterMap_known? {names : List String} {name : String} (listed : name ∈ names)
    (ms : List (Option String × Json)) :
    (ms.filterMap (known? names)).lookup name = ms.lookup (some name) := by
  induction ms with
  | nil => rfl
  | cons m ms ih =>
    obtain ⟨_ | other, v⟩ := m
    · have passed : known? names (none, v) = none := rfl
      rw [List.filterMap_cons_none passed, ih]
      rfl
    · by_cases same : name = other
      · subst same
        have entry : known? names (some name, v) = some (name, v) := if_pos listed
        rw [List.filterMap_cons_some entry, List.lookup_cons_self, List.lookup_cons_self]
      · have apart : (some name == some other) = false := by simpa using same
        have apart' : (name == other) = false := by simpa using same
        rw [List.lookup_cons, apart]
        by_cases held : other ∈ names
        · have entry : known? names (some other, v) = some (other, v) := if_pos held
          rw [List.filterMap_cons_some entry, List.lookup_cons, apart', ← ih]
        · have passed : known? names (some other, v) = none := if_neg held
          rw [List.filterMap_cons_none passed, ih]

/-- The items of a list belong to the names in their order. -/
theorem lookup_zip {names : List String} {name : String} (listed : name ∈ names)
    (items : List Json) : (names.zip items).lookup name = items[names.idxOf name]? := by
  induction names generalizing items with
  | nil => cases listed
  | cons other names ih =>
    cases items with
    | nil => rfl
    | cons v items =>
      rw [List.zip_cons_cons, List.lookup_cons, List.idxOf_cons]
      by_cases same : name = other
      · subst same
        simp
      · have apart : (name == other) = false := by simpa using same
        have apart' : (other == name) = false := by simpa using Ne.symm same
        rw [apart, apart']
        exact ih ((List.mem_cons.mp listed).resolve_left same) items


/-- A document is a record with these names: an object that gives none of them twice and has no
nameless member, or a list with at most as many items. -/
def IsRecord (names : List String) : Json → Prop
  | .object members => (∀ m ∈ members, m.1.isSome = true) ∧
      ((members.filterMap (known? names)).map Prod.fst).Nodup
  | .list items => items.length ≤ names.length
  | _ => False

/-- The value of a member: in an object under its name, in a list at the place of its name. -/
def member? (names : List String) (name : String) : Json → Option Json
  | .object members => members.lookup (some name)
  | .list items => items[names.idxOf name]?
  | _ => none

/-- The members of a document that is a record are found by their names. -/
theorem exists_record?_iff {names : List String} {doc : Json} :
    (∃ r, doc.record? names = some r) ↔ doc.IsRecord names := by
  cases doc with
  | object members =>
    constructor
    · rintro ⟨r, found⟩
      obtain ⟨known, left, -⟩ := Option.map_eq_some_iff.mp found
      obtain ⟨complete, once, -⟩ := of_knownMembers?_eq_some left
      exact ⟨complete, once⟩
    · rintro ⟨complete, once⟩
      exact ⟨_, congrArg (Option.map Record.mk) (knownMembers?_eq_filterMap complete once)⟩
  | list items => simp [record?, IsRecord]
  | _ => simp [record?, IsRecord]

theorem lookup_entries_of_record? {names : List String} {doc : Json} {r : Record}
    (found : doc.record? names = some r) {name : String} (listed : name ∈ names) :
    r.entries.lookup name = doc.member? names name := by
  cases doc with
  | object members =>
    obtain ⟨known, left, rfl⟩ := Option.map_eq_some_iff.mp found
    obtain ⟨-, -, rfl⟩ := of_knownMembers?_eq_some left
    exact lookup_filterMap_known? listed members
  | list items =>
    rw [record?] at found
    split at found
    · cases found
      exact lookup_zip listed items
    · cases found
  | _ => cases found

/-- A value that is read from a document, or a default if there is none. -/
def given? {α : Type} (read : Json → Option α) (default : α) : Option Json → Option α
  | some doc => read doc
  | none => some default

theorem Record.get_eq_given? {names : List String} {doc : Json} {r : Record} {α : Type}
    {read : Json → Option α} {default : α}
    (found : doc.record? names = some r) {name : String} (listed : name ∈ names) :
    r.get name read default = given? read default (doc.member? names name) := by
  rw [Record.get, lookup_entries_of_record? found listed]
  cases doc.member? names name <;> rfl

/-! ### Values that are written -/

@[simp] theorem isReadable_ofOption (text : Option String) : (ofOption text).isReadable = true := by
  cases text <;> rfl

@[simp] theorem depth_ofOption (text : Option String) : (ofOption text).depth = 0 := by
  cases text <;> rfl

@[simp] theorem isReadable_ofStrings (texts : List String) :
    (ofStrings texts).isReadable = true := by
  change areItemsReadable (texts.map Json.text) = true
  induction texts with
  | nil => rfl
  | cons text texts ih => exact ih

@[simp] theorem depth_ofStrings (texts : List String) : (ofStrings texts).depth = 1 := by
  have flat : depthOfItems (texts.map Json.text) = 0 := by
    induction texts with
    | nil => rfl
    | cons text texts ih => rw [List.map_cons, depthOfItems, ih]; rfl
  rw [ofStrings, depth, flat]

@[simp] theorem optional?_ofOption (text : Option String) :
    optional? string? (ofOption text) = some text := by
  cases text <;> rfl

@[simp] theorem word64?_ofWord64 (n : UInt64) : word64? (ofWord64 n) = some n := rfl

/-- A whole number of thirty-two bits is one again. -/
@[simp] theorem word32?_ofWord32 (n : UInt32) : word32? (ofWord32 n) = some n := by
  have small : n.toUInt64.toNat < UInt32.size := by
    rw [UInt32.toNat_toUInt64]
    exact n.toNat_lt_size
  rw [ofWord32, word32?, if_pos small, UInt32.toUInt32_toUInt64]

@[simp] theorem list?_ofStrings (texts : List String) :
    list? string? (ofStrings texts) = some texts := by
  change (texts.map Json.text).mapM string? = some texts
  induction texts with
  | nil => rfl
  | cons text texts ih =>
    rw [List.map_cons, List.mapM_cons, ih]
    rfl

end ChainActivity.Json
