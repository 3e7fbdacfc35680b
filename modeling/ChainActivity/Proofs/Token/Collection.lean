import ChainActivity.Proofs.Text.Digits
import ChainActivity.Token.Identifier
import Mathlib.Data.List.TakeWhile

/-!
# Collections and the identifiers of their items

An identifier is cut at its second dash to find its collection.  Written with a nonce, a
collection is found again exactly if it has one dash, as those of a chain have; without a
nonce it may have none.

## Main statements

* `Token.collection_collection`, `Token.collection_eq_native_iff` — a collection is its own
  collection, and only the native token has the native one.
* `Token.collection_eq_self_iff` — which tokens are collections.
* `Token.collection_identifier_iff` — which collections are found in the identifiers of
  their items.
* `Token.identifier_eq_empty_iff` — which item has no identifier.

## Design notes

All facts about cutting are about a text with a dash in the middle, `front ++ '-' :: back`,
where `front` has no dash.  Nothing is said about the number of dashes of a text before
`beforeSecondDash_eq_self_iff`, which counts them.
-/

namespace ChainActivity.Token

/-! ### Cutting at dashes -/

/-- The characters before a dash contain none. -/
theorem beforeDash_append {cs : List Char} (plain : ∀ c ∈ cs, c ≠ '-') (rest : List Char) :
    beforeDash (cs ++ '-' :: rest) = cs := by
  rw [beforeDash, List.takeWhile_append_of_pos fun c member => decide_eq_true (plain c member)]
  simp

theorem ne_dash_of_mem_beforeDash {cs : List Char} {c : Char} (member : c ∈ beforeDash cs) :
    c ≠ '-' := by
  rw [beforeDash] at member
  have selected := List.mem_takeWhile_imp member
  exact of_decide_eq_true selected

/-- Without a dash the whole text is before it. -/
theorem beforeDash_of_forall {cs : List Char} (plain : ∀ c ∈ cs, c ≠ '-') : beforeDash cs = cs :=
  List.takeWhile_eq_self_iff.mpr fun c member => decide_eq_true (plain c member)

theorem forall_ne_dash_iff {cs : List Char} : (∀ c ∈ cs, c ≠ '-') ↔ cs.count '-' = 0 := by
  rw [List.count_eq_zero]
  constructor
  · intro plain member
    exact plain '-' member rfl
  · intro missing c member same
    exact missing (same ▸ member)

/-- A text with a dash has a first one, and the others behind it. -/
theorem exists_first_dash {cs : List Char} (dash : cs.count '-' ≠ 0) :
    ∃ front back, cs = front ++ '-' :: back ∧ (∀ c ∈ front, c ≠ '-') ∧
      cs.count '-' = back.count '-' + 1 := by
  have member : '-' ∈ cs := List.count_pos_iff.mp (Nat.pos_of_ne_zero dash)
  obtain ⟨front, back, split, plain⟩ := List.eq_append_cons_of_mem member
  refine ⟨front, back, split, forall_ne_dash_iff.mpr (List.count_eq_zero.mpr plain), ?_⟩
  rw [split, List.count_append, List.count_cons_self, List.count_eq_zero.mpr plain, Nat.zero_add]

/-- A text with a dash is cut at its first two dashes. -/
theorem beforeSecondDash_append {cs : List Char} (plain : ∀ c ∈ cs, c ≠ '-') (rest : List Char) :
    beforeSecondDash (cs ++ '-' :: rest) = cs ++ '-' :: beforeDash rest := by
  have behind : (cs ++ '-' :: rest).dropWhile (· ≠ '-') = '-' :: rest := by
    rw [List.dropWhile_append_of_pos fun c member => decide_eq_true (plain c member)]
    simp
  rw [beforeSecondDash, behind, beforeDash_append plain]

/-- What stands before the second dash is all that there is, or it has one dash. -/
theorem beforeSecondDash_cases (cs : List Char) :
    beforeSecondDash cs = cs ∨
      ∃ front back, beforeSecondDash cs = front ++ '-' :: back ∧
        (∀ c ∈ front, c ≠ '-') ∧ ∀ c ∈ back, c ≠ '-' := by
  unfold beforeSecondDash
  split
  · exact .inl rfl
  · next rest _ =>
    exact .inr ⟨beforeDash cs, beforeDash rest, rfl, fun _ => ne_dash_of_mem_beforeDash,
      fun _ => ne_dash_of_mem_beforeDash⟩

/-- Without a second dash everything is before it. -/
theorem beforeSecondDash_eq_self_iff (cs : List Char) :
    beforeSecondDash cs = cs ↔ cs.count '-' ≤ 1 := by
  by_cases dash : cs.count '-' = 0
  · have gone : cs.dropWhile (· ≠ '-') = [] :=
      List.dropWhile_eq_nil_iff.mpr fun c member =>
        decide_eq_true (forall_ne_dash_iff.mpr dash c member)
    rw [beforeSecondDash, gone]
    simp [dash]
  · obtain ⟨front, back, split, plain, dashes⟩ := exists_first_dash dash
    have rest : beforeDash back = back ↔ back.count '-' = 0 := by
      rw [← forall_ne_dash_iff]
      refine ⟨fun whole c member => ?_, beforeDash_of_forall⟩
      exact ne_dash_of_mem_beforeDash (whole.symm ▸ member)
    have cut : beforeSecondDash cs = cs ↔ beforeDash back = back := by
      rw [split, beforeSecondDash_append plain]
      simp
    rw [cut, rest, dashes]
    omega

/-! ### Collections -/

/-- A collection is its own collection. -/
@[simp] theorem collection_collection (token : String) :
    collection (collection token) = collection token := by
  rw [collection, collection, String.toList_ofList]
  rcases beforeSecondDash_cases token.toList with whole | ⟨front, back, cut, plain, plain'⟩
  · rw [whole, whole]
  · rw [cut, beforeSecondDash_append plain, beforeDash_of_forall plain']

/-- Only the native token has the native collection. -/
theorem collection_eq_native_iff {token : String} :
    collection token = native ↔ token = native := by
  constructor
  · intro same
    have characters : beforeSecondDash token.toList = native.toList := by
      rw [← same, collection, String.toList_ofList]
    rcases beforeSecondDash_cases token.toList with whole | ⟨front, back, cut, -, -⟩
    · exact String.toList_inj.mp (whole.symm.trans characters)
    · have dash : '-' ∈ native.toList := by
        rw [← characters, cut]
        simp
      exact absurd dash (by decide)
  · rintro rfl
    decide

/-- A token is its own collection exactly if its identifier has at most one dash. -/
theorem collection_eq_self_iff (token : String) :
    collection token = token ↔ token.toList.count '-' ≤ 1 := by
  rw [← beforeSecondDash_eq_self_iff, collection, ← String.toList_inj, String.toList_ofList]

/-! ### Items -/

/-- The identifier of an item has a dash and the digits of the nonce behind its collection. -/
theorem toList_identifier (c : String) {n : UInt64} (item : n ≠ 0) :
    (identifier c n).toList = c.toList ++ '-' :: Hex.ofNat n.toNat := by
  rw [identifier, if_neg item, String.toList_ofList]

/-- The digits of a nonce have no dash among them. -/
theorem count_dash_ofNat (n : Nat) : (Hex.ofNat n).count '-' = 0 := by
  rw [List.count_eq_zero]
  intro member
  have digit : Hex.isDigit '-' = true := Hex.isDigit_of_mem_ofNat member
  exact absurd digit (by decide)

/-- The identifier of an item has one dash more than its collection. -/
theorem count_dash_identifier (c : String) {n : UInt64} (item : n ≠ 0) :
    (identifier c n).toList.count '-' = c.toList.count '-' + 1 := by
  rw [toList_identifier c item, List.count_append, List.count_cons_self, count_dash_ofNat]

/-- An item shows its collection exactly if the collection has one dash. -/
theorem collection_identifier_of_ne_zero (c : String) {n : UInt64} (item : n ≠ 0) :
    collection (identifier c n) = c ↔ c.toList.count '-' = 1 := by
  constructor
  · intro found
    have few : c.toList.count '-' ≤ 1 := by
      rw [← collection_eq_self_iff, ← found, collection_collection]
    by_contra other
    -- without a dash in the collection there is none to cut at
    have single : (identifier c n).toList.count '-' ≤ 1 := by
      rw [count_dash_identifier c item]
      omega
    rw [(collection_eq_self_iff _).mpr single] at found
    have lengths := congrArg (fun s => s.toList.length) found
    simp [toList_identifier c item] at lengths
  · intro one
    have dash : c.toList.count '-' ≠ 0 := one ▸ Nat.one_ne_zero
    obtain ⟨front, back, split, plain, dashes⟩ := exists_first_dash dash
    have plain' : ∀ x ∈ back, x ≠ '-' := forall_ne_dash_iff.mpr (by omega)
    have cut : beforeSecondDash (identifier c n).toList = c.toList := by
      rw [toList_identifier c item, split, List.append_assoc, List.cons_append,
        beforeSecondDash_append plain, beforeDash_append plain']
    rw [collection, cut, String.ofList_toList]

/-- A collection is found in an identifier exactly if it has one dash, or if it has none and
no nonce is written behind it. -/
theorem collection_identifier_iff (c : String) (n : UInt64) :
    collection (identifier c n) = c ↔
      c.toList.count '-' = 1 ∨ n = 0 ∧ c.toList.count '-' = 0 := by
  by_cases plain : n = 0
  · subst plain
    simp only [identifier_zero, collection_eq_self_iff, true_and]
    omega
  · rw [collection_identifier_of_ne_zero c plain]
    simp [plain]

/-- Only a plain token without a name has an empty identifier. -/
theorem identifier_eq_empty_iff {c : String} {n : UInt64} :
    identifier c n = "" ↔ c = "" ∧ n = 0 := by
  by_cases plain : n = 0
  · subst plain
    simp
  · have nonempty : identifier c n ≠ "" := by
      intro empty
      have characters := toList_identifier c plain
      rw [empty] at characters
      simp at characters
    simp [nonempty, plain]

end ChainActivity.Token
