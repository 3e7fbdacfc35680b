import ChainActivity.Json.Writer

/-!
# Documents on one line

The text of a document has no control characters, whatever texts the document holds.  So
it never leaves its line.

## Main definitions

* `IsPrinted`, `IsOneLine` — whether a character is no control character, and whether none
  of a text is.

## Main statements

* `Layout.isOneLine_render` — the text of a double.
* `Json.isOneLine_quoted` — a text in quotes.
* `Json.isOneLine_render`, `Json.newline_not_mem_toText` — the text of a document.
-/

namespace ChainActivity

/-- Whether a character is no control character: these stand before the blank, and a line
break is one of them. -/
def IsPrinted (c : Char) : Prop :=
  (' ').toNat ≤ c.toNat

instance (c : Char) : Decidable (IsPrinted c) :=
  inferInstanceAs (Decidable ((' ').toNat ≤ c.toNat))

/-- Whether there are no control characters, so that all is on one line. -/
def IsOneLine (cs : List Char) : Prop :=
  ∀ c ∈ cs, IsPrinted c

instance (cs : List Char) : Decidable (IsOneLine cs) :=
  List.decidableBAll IsPrinted cs

namespace IsOneLine

variable {α : Type} {c : Char} {cs ds : List Char}

@[simp] theorem nil : IsOneLine [] :=
  fun _ member => nomatch member

@[simp] theorem cons_iff : IsOneLine (c :: cs) ↔ IsPrinted c ∧ IsOneLine cs :=
  List.forall_mem_cons

@[simp] theorem append_iff : IsOneLine (cs ++ ds) ↔ IsOneLine cs ∧ IsOneLine ds :=
  List.forall_mem_append

theorem flatMap {f : α → List Char} {xs : List α} (each : ∀ x ∈ xs, IsOneLine (f x)) :
    IsOneLine (xs.flatMap f) := by
  intro c member
  obtain ⟨x, listed, here⟩ := List.mem_flatMap.mp member
  exact each x listed c here

/-- Some of the characters have no control characters either. -/
theorem mono (line : IsOneLine cs) (fewer : ds ⊆ cs) : IsOneLine ds :=
  fun c member => line c (fewer member)

theorem replicate (n : Nat) (printed : IsPrinted c) : IsOneLine (List.replicate n c) := by
  intro d member
  rw [List.eq_of_mem_replicate member]
  exact printed

theorem toDigits (n : Nat) : IsOneLine (Nat.toDigits 10 n) := by
  intro c member
  have digit : c.isDigit = true := Nat.isDigit_of_mem_toDigits (by decide) (by decide) member
  rw [Char.isDigit, Bool.and_eq_true, decide_eq_true_eq] at digit
  exact Nat.le_trans (by decide : (' ').toNat ≤ 48) digit.1

end IsOneLine

/-! ### Doubles -/

namespace Decimal

theorem isOneLine_digits (d : Decimal) : IsOneLine d.digits.1 := by
  rw [digits, stripZeros]
  exact (IsOneLine.toDigits d.significand).mono (List.take_subset _ _)

end Decimal

namespace Layout

variable {ds : List Char}

theorem isOneLine_positional (layout : Layout) (digits : IsOneLine ds) (power : Int) :
    IsOneLine (layout.positional ds power) := by
  have zeros (n : Nat) : IsOneLine (List.replicate n '0') := .replicate n (by decide)
  have zero : IsPrinted '0' := by decide
  have point : IsPrinted '.' := by decide
  unfold positional
  split
  · simp only [IsOneLine.cons_iff, IsOneLine.append_iff]
    exact ⟨zero, point, zeros _, digits⟩
  · have whole : IsOneLine (ds.take (power.toNat + 1) ++
        List.replicate (power.toNat + 1 - ds.length) '0') :=
      IsOneLine.append_iff.mpr ⟨digits.mono (List.take_subset _ _), zeros _⟩
    have fraction : IsOneLine (ds.drop (power.toNat + 1)) := digits.mono (List.drop_subset _ _)
    dsimp only
    split
    · split
      · exact IsOneLine.append_iff.mpr ⟨whole, by decide⟩
      · exact whole
    · exact IsOneLine.append_iff.mpr ⟨whole, IsOneLine.cons_iff.mpr ⟨point, fraction⟩⟩

theorem isOneLine_scientific (digits : IsOneLine ds) (power : Int) :
    IsOneLine (scientific ds power) := by
  have exponent : IsOneLine (Nat.toDigits 10 power.natAbs) := .toDigits _
  have letter : IsPrinted 'e' := by decide
  have point : IsPrinted '.' := by decide
  have sign : IsPrinted (if power < 0 then '-' else '+') := by split <;> decide
  unfold scientific
  dsimp only
  rw [IsOneLine.append_iff, IsOneLine.cons_iff, IsOneLine.cons_iff]
  refine ⟨?_, letter, sign, exponent⟩
  split
  · simp only [IsOneLine.cons_iff] at digits ⊢
    exact ⟨digits.1, point, digits.2⟩
  · exact digits

theorem isOneLine_renderDecimal (layout : Layout) (d : Decimal) :
    IsOneLine (layout.renderDecimal d) := by
  have digits := Decimal.isOneLine_digits d
  unfold renderDecimal
  dsimp only
  split
  · exact layout.isOneLine_positional digits _
  · exact isOneLine_scientific digits _

/-- The text of a double has digits, signs, a point and a few letters. -/
theorem isOneLine_render (layout : Layout) (x : Float) : IsOneLine (layout.render x) := by
  have minus : IsPrinted '-' := by decide
  unfold render
  split
  · decide
  · split <;> decide
  · next mantissa exponent _ =>
    have magnitude : IsOneLine (if mantissa = 0 then layout.positional ['0'] 0
        else layout.renderDecimal (Decimal.shortest layout.tie mantissa exponent)) := by
      split
      · exact layout.isOneLine_positional (by decide) 0
      · exact layout.isOneLine_renderDecimal _
    dsimp only
    generalize (if mantissa = 0 then _ else _ : List Char) = text at magnitude ⊢
    split
    · exact IsOneLine.cons_iff.mpr ⟨minus, magnitude⟩
    · exact magnitude

end Layout

/-! ### Documents -/

namespace Json

theorem isPrinted_digitChar {n : Nat} (small : n < 16) : IsPrinted (Nat.digitChar n) := by
  have each : ∀ digit : Fin 16, IsPrinted (Nat.digitChar digit) := by decide
  exact each ⟨n, small⟩

/-- A control character is escaped. -/
theorem isOneLine_escaped (c : Char) : IsOneLine (escaped c) := by
  by_cases control : c < ' '
  · -- it has a short escape, or it is written by its code
    have below : c.toNat < 32 := control
    have high : IsPrinted (Nat.digitChar (c.toNat / 16)) := isPrinted_digitChar (by omega)
    have low : IsPrinted (Nat.digitChar (c.toNat % 16)) := isPrinted_digitChar (by omega)
    have code : IsOneLine
        ['\\', 'u', '0', '0', Nat.digitChar (c.toNat / 16), Nat.digitChar (c.toNat % 16)] := by
      simp only [IsOneLine.cons_iff]
      exact ⟨by decide, by decide, by decide, by decide, high, low, .nil⟩
    unfold escaped
    repeat' split
    all_goals first | exact code | decide
  · have itself : IsOneLine [c] := IsOneLine.cons_iff.mpr ⟨Nat.le_of_not_lt control, .nil⟩
    unfold escaped
    repeat' split
    all_goals first | exact itself | decide

theorem isOneLine_quoted (cs : List Char) : IsOneLine (quoted cs) := by
  have inside : IsOneLine (cs.flatMap escaped) := .flatMap fun c _ => isOneLine_escaped c
  have quote : IsPrinted '"' := by decide
  rw [quoted]
  simp [inside, quote]

theorem Number.isOneLine_render (n : Number) : IsOneLine n.render := by
  have minus : IsPrinted '-' := by decide
  cases n with
  | natural n => exact .toDigits n.toNat
  | negative n => exact IsOneLine.cons_iff.mpr ⟨minus, .toDigits n.toNat⟩
  | real x =>
    rw [Number.render]
    split
    · exact Layout.json.isOneLine_render x
    · decide

mutual

/-- The text of a document has no control characters. -/
theorem isOneLine_render : (v : Json) → IsOneLine v.render
  | .null => by rw [render]; decide
  | .bool b => by rw [render]; split <;> decide
  | .number n => by rw [render]; exact n.isOneLine_render
  | .text s => by rw [render]; exact isOneLine_quoted s.toList
  | .unreadable => by rw [render]; decide
  | .list items => by
    have inside := isOneLine_renderItems items
    have opening : IsPrinted '[' := by decide
    have closing : IsPrinted ']' := by decide
    simp [render, inside, opening, closing]
  | .object members => by
    have inside := isOneLine_renderMembers members
    have opening : IsPrinted '\x7b' := by decide
    have closing : IsPrinted '\x7d' := by decide
    simp [render, inside, opening, closing]

theorem isOneLine_renderItems : (items : List Json) → IsOneLine (renderItems items)
  | [] => .nil
  | [v] => by rw [renderItems]; exact isOneLine_render v
  | v :: w :: rest => by
    have first := isOneLine_render v
    have others := isOneLine_renderItems (w :: rest)
    have comma : IsPrinted ',' := by decide
    rw [renderItems]
    simp [first, others, comma]

theorem isOneLine_renderMembers :
    (members : List (Option String × Json)) → IsOneLine (renderMembers members)
  | [] => .nil
  | [(key, v)] => by
    have name : IsOneLine (renderKey key) := isOneLine_quoted _
    have value := isOneLine_render v
    have colon : IsPrinted ':' := by decide
    rw [renderMembers]
    simp [name, value, colon]
  | (key, v) :: m :: rest => by
    have name : IsOneLine (renderKey key) := isOneLine_quoted _
    have value := isOneLine_render v
    have others := isOneLine_renderMembers (m :: rest)
    have colon : IsPrinted ':' := by decide
    have comma : IsPrinted ',' := by decide
    rw [renderMembers]
    simp [name, value, others, colon, comma]

end

/-- The text of a document has no line break. -/
theorem newline_not_mem_toText (v : Json) : '\n' ∉ v.toText.toList := by
  rw [toText, String.toList_ofList]
  intro member
  exact absurd (isOneLine_render v '\n' member) (by decide)

end Json

end ChainActivity
