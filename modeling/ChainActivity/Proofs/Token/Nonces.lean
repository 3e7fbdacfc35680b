import ChainActivity.Proofs.Call.RoundTrip
import ChainActivity.Proofs.Token.Collection
import Mathlib.Data.Set.Function

/-!
# Items and the nonces that their identifiers show

The identifier of an item is its collection, a dash and the nonce in hexadecimal digits.  The
digits hold no dash, so that the last dash is always the one in front of the nonce.  What stands
before the second dash is the collection only if the collection has one dash itself.

## Main definitions

* `Token.lastPart` — the part of an identifier behind its last dash.

## Main statements

* `Token.lastPart_identifier` — the last part of an item's identifier is a term of its nonce.
* `Token.identifier_right_injective` — items of one collection have different identifiers.
* `Token.identifier_injOn` — items of collections with one dash have different identifiers.
* `Token.identifier_shows_item` — what an identifier shows of its item, and when.
-/

namespace ChainActivity.Token

/-! ### The last part -/

/-- The part behind the last dash; everything if there is none. -/
def lastPart (token : String) : String :=
  String.ofList (beforeDash token.toList.reverse).reverse

/-- What follows a dash and has none is the last part. -/
theorem lastPart_append (front : List Char) {back : List Char} (plain : ∀ c ∈ back, c ≠ '-') :
    lastPart (String.ofList (front ++ '-' :: back)) = String.ofList back := by
  have plain' : ∀ c ∈ back.reverse, c ≠ '-' := by
    intro c member
    exact plain c (List.mem_reverse.mp member)
  rw [lastPart, String.toList_ofList, List.reverse_append, List.reverse_cons, List.append_assoc,
    List.singleton_append, beforeDash_append plain', List.reverse_reverse]

/-- The last part of an item's identifier is a term of its nonce, whatever the collection. -/
theorem lastPart_identifier (c : String) {n : UInt64} (item : n ≠ 0) :
    lastPart (identifier c n) = Term.ofNat n.toNat := by
  have digits : ∀ d ∈ Hex.ofNat n.toNat, d ≠ '-' := forall_ne_dash_iff.mpr (count_dash_ofNat _)
  rw [identifier, if_neg item]
  exact lastPart_append c.toList digits

/-! ### Different items -/

/-- Items of a collection with different nonces have different identifiers, the plain token
included. -/
theorem identifier_right_injective (c : String) : Function.Injective (identifier c) := by
  intro n m same
  by_cases plain : n = 0
  · by_cases plain' : m = 0
    · rw [plain, plain']
    · -- an item has one dash more than the plain token
      have dashes := count_dash_identifier c plain'
      rw [← same, plain, identifier_zero] at dashes
      omega
  · by_cases plain' : m = 0
    · have dashes := count_dash_identifier c plain
      rw [same, plain', identifier_zero] at dashes
      omega
    · have terms : Term.ofNat n.toNat = Term.ofNat m.toNat := by
        rw [← lastPart_identifier c plain, ← lastPart_identifier c plain', same]
      have words := congrArg Term.word terms
      rw [Term.word_toNat, Term.word_toNat] at words
      exact Except.ok.inj words

/-- Items of collections with one dash have different identifiers. -/
theorem identifier_injOn :
    Set.InjOn (fun item : String × UInt64 => identifier item.1 item.2)
      {item | item.1.toList.count '-' = 1} := by
  rintro ⟨c, n⟩ one ⟨d, m⟩ one' same
  have shown : collection (identifier c n) = c := (collection_identifier_iff c n).mpr (.inl one)
  have shown' : collection (identifier d m) = d := (collection_identifier_iff d m).mpr (.inl one')
  obtain rfl : c = d :=
    calc c = collection (identifier c n) := shown.symm
      _ = collection (identifier d m) := congrArg collection same
      _ = d := shown'
  exact congrArg (Prod.mk c) (identifier_right_injective c same)

/-- **An identifier shows its collection exactly if the collection has one dash**, or none and
nothing is written behind it; to look for the collection again changes nothing.  Items of
collections with one dash have different identifiers, and the part of an identifier behind the
last dash means the nonce, if there is a nonce. -/
theorem identifier_shows_item :
    (∀ c n, collection (identifier c n) = c ↔
      c.toList.count '-' = 1 ∨ n = 0 ∧ c.toList.count '-' = 0) ∧
    (∀ token, collection (collection token) = collection token) ∧
    Set.InjOn (fun item : String × UInt64 => identifier item.1 item.2)
      {item | item.1.toList.count '-' = 1} ∧
    ∀ c n, 0 < n → Term.word (lastPart (identifier c n)) = .ok n := by
  refine ⟨collection_identifier_iff, collection_collection, identifier_injOn, ?_⟩
  intro c n positive
  have item : n ≠ 0 := by
    rintro rfl
    exact absurd positive (by decide)
  rw [lastPart_identifier c item, Term.word_toNat]

/-- A nonce with an odd number of digits, behind a collection with one dash; and a collection
without a dash, which takes the nonce for its own. -/
theorem identifier_shows_item_of_odd_nonce :
    identifier "FARM-abc123" 0x1ab = "FARM-abc123-01ab" ∧ (0 : UInt64) < 0x1ab ∧
      collection (identifier "FARM-abc123" 0x1ab) = "FARM-abc123" ∧
      Term.word (lastPart (identifier "FARM-abc123" 0x1ab)) = .ok 0x1ab ∧
      collection (identifier "FARM" 1) ≠ "FARM" := by
  obtain ⟨shows, -, -, nonce⟩ := identifier_shows_item
  have positive : (0 : UInt64) < 0x1ab := by decide
  refine ⟨by decide +kernel, positive, ?_, nonce "FARM-abc123" 0x1ab positive, ?_⟩
  · exact (shows "FARM-abc123" 0x1ab).mpr (.inl (by decide))
  · exact mt (shows "FARM" 1).mp (by decide)

end ChainActivity.Token
