import ChainActivity.Cache.Codec
import ChainActivity.Proofs.Json.Doubles
import ChainActivity.Proofs.Json.Records
import ChainActivity.Proofs.Json.Words

/-!
# Documents through JSON text

The text of a document is read again as the document itself, except for what the text does
not show: which double a numeral was written for, and that something was missing.

## Main definitions

* `Json.reread` — what a document is after it was written and read.
* `Json.tokens` — the tokens of the text of a document.

## Main statements

* `Json.tokens?_render` — the text of a document gives its tokens.
* `Json.ofTokens?_tokens` — and these give the document.
* `Json.ofText?_toText` — both in one.
* `Json.isReadable_reread`, `Json.depth_reread` — what is read has values everywhere, and is
  nested as before.
* `Codec.decode_word32` — a cached number reads back.

## Design notes

Reading a numeral may give another double than the one that was written, so that `reread`
is not the identity.  All else in a document stays as it is.
-/

namespace ChainActivity

namespace Json

/-! ### Numbers -/

/-- The numeral in the text of a number; a double that is not finite has none. -/
def Number.numeral? (n : Number) : Option Numeral :=
  Numeral.ofLexeme? n.render

/-- The token of a number. -/
def Number.token (n : Number) : Token :=
  match n.numeral? with
  | some m => .number m.value?
  | none => .null

/-- A number after it was written and read. -/
def Number.reread (n : Number) : Json :=
  match n.numeral? with
  | some m =>
    match m.value? with
    | some k => .number k
    | none => .unreadable
  | none => .null

namespace Number

theorem numeral?_of_written {n : Number} {m : Numeral} (written : n.render = m.written)
    (wellFormed : m.IsWellFormed) : n.numeral? = some m := by
  rw [numeral?, written, Numeral.ofLexeme?_written wellFormed]

/-- The value of the digits of a number of sixty-four bits is the number. -/
theorem value?_digits (n : UInt64) :
    Numeral.value? ⟨false, Nat.toDigits 10 n.toNat, none, none⟩ = some (.natural n) := by
  rw [Numeral.value?, Numeral.natValue_toDigits]
  simp only [Option.isNone_none, Bool.and_self, if_true, Bool.false_eq_true, if_false,
    if_pos n.toNat_lt_size, UInt64.ofNat_toNat]

/-- With a minus sign in front they have a value, too. -/
theorem exists_value?_minus (n : UInt64) :
    ∃ k, Numeral.value? ⟨true, Nat.toDigits 10 n.toNat, none, none⟩ = some k := by
  rw [Numeral.value?, Numeral.natValue_toDigits]
  simp only [Option.isNone_none, Bool.and_self, if_true]
  split
  · exact ⟨_, rfl⟩
  · have whole : Numeral.natValue (Nat.toDigits 10 n.toNat) < UInt64.size := by
      rw [Numeral.natValue_toDigits]
      exact n.toNat_lt_size
    have magnitude : Numeral.magnitude ⟨true, Nat.toDigits 10 n.toNat, none, none⟩ = n.toNat := by
      simp [Numeral.magnitude, Numeral.writtenExponent, Numeral.natValue_toDigits]
    have small : (n.toNat : ℚ) < 2 ^ 64 := by exact_mod_cast n.toNat_lt
    have fits : Numeral.magnitude ⟨true, Nat.toDigits 10 n.toNat, none, none⟩ *
        (1 + 1 / 2 ^ 52) ^ 3 < (2 ^ 53 - 1) * Rounding.lastPlace := by
      rw [magnitude]
      linarith [Rounding.lt_largest]
    obtain ⟨y, value⟩ := Option.isSome_iff_exists.mp (Numeral.isSome_real? whole fits)
    exact ⟨_, by rw [value]; rfl⟩

/-- The text of a number is a numeral with a value, or it says that there is none. -/
theorem exists_numeral (n : Number) :
    (∃ m : Numeral, n.render = m.written ∧ m.IsWellFormed ∧ ∃ k, m.value? = some k) ∨
      n.render = "null".toList := by
  cases n with
  | natural n =>
    refine .inl ⟨⟨false, Nat.toDigits 10 n.toNat, none, none⟩, ?_,
      Numeral.isWellFormed_digits .., _, value?_digits n⟩
    simp [render, Numeral.written, Numeral.fractionText, Numeral.exponentText]
  | negative n =>
    refine .inl ⟨⟨true, Nat.toDigits 10 n.toNat, none, none⟩, ?_, Numeral.isWellFormed_digits ..,
      exists_value?_minus n⟩
    simp [render, Numeral.written, Numeral.fractionText, Numeral.exponentText]
  | real x =>
    rw [render]
    split
    · next finite =>
      obtain ⟨m, written, wellFormed, y, value⟩ := Layout.exists_numeral_render finite
      exact .inl ⟨m, written, wellFormed, _, value⟩
    · exact .inr rfl

theorem reread_of_written {n : Number} {m : Numeral} {k : Number} (written : n.render = m.written)
    (wellFormed : m.IsWellFormed) (value : m.value? = some k) : n.reread = .number k := by
  rw [reread, numeral?_of_written written wellFormed]
  simp only [value]

/-- A number is read as a number, or as nothing. -/
theorem reread_cases (n : Number) : (∃ k, n.reread = .number k) ∨ n.reread = .null := by
  rcases n.exists_numeral with ⟨m, written, wellFormed, k, value⟩ | missing
  · exact .inl ⟨k, reread_of_written written wellFormed value⟩
  · refine .inr ?_
    rw [reread, numeral?, missing]
    rfl

/-- A whole number from zero on is read as itself. -/
theorem reread_natural (n : UInt64) : (Number.natural n).reread = .number (.natural n) := by
  refine reread_of_written ?_ (Numeral.isWellFormed_digits false n.toNat) (value?_digits n)
  simp [render, Numeral.written, Numeral.fractionText, Numeral.exponentText]

/-- A finite double is read as a double. -/
theorem reread_real {x : Float} (finite : x.isFinite = true) :
    ∃ y, (Number.real x).reread = .number (.real y) := by
  obtain ⟨m, written, wellFormed, y, value⟩ := Layout.exists_numeral_render finite
  have text : (Number.real x).render = m.written := by rw [render, if_pos finite, written]
  exact ⟨y, reread_of_written text wellFormed value⟩

end Number

/-! ### Documents -/

mutual

/-- A document after it was written and read. -/
def reread : Json → Json
  | .number n => n.reread
  | .unreadable => .null
  | .list items => .list (rereadItems items)
  | .object members => .object (rereadMembers members)
  | .null => .null
  | .bool b => .bool b
  | .text s => .text s

/-- Documents after they were written and read. -/
def rereadItems : List Json → List Json
  | [] => []
  | v :: rest => reread v :: rereadItems rest

/-- Members after they were written and read; a missing name is an empty one. -/
def rereadMembers : List (Option String × Json) → List (Option String × Json)
  | [] => []
  | (key, v) :: rest => (some (key.getD ""), reread v) :: rereadMembers rest

end

mutual

/-- The tokens of the text of a document. -/
def tokens : Json → List Token
  | .null => [.null]
  | .bool b => [.bool b]
  | .number n => [n.token]
  | .text s => [.text (some s)]
  | .unreadable => [.null]
  | .list items => .openList :: (tokensOfItems items ++ [.closeList])
  | .object members => .openObject :: (tokensOfMembers members ++ [.closeObject])

/-- The tokens of documents with commas between them. -/
def tokensOfItems : List Json → List Token
  | [] => []
  | [v] => tokens v
  | v :: w :: rest => tokens v ++ .comma :: tokensOfItems (w :: rest)

/-- The tokens of members with commas between them. -/
def tokensOfMembers : List (Option String × Json) → List Token
  | [] => []
  | [(key, v)] => .text (some (key.getD "")) :: .colon :: tokens v
  | (key, v) :: m :: rest =>
    .text (some (key.getD "")) :: .colon :: (tokens v ++ .comma :: tokensOfMembers (m :: rest))

end

/-! ### From characters to tokens -/

namespace Lexer

theorem reads_number (n : Number) : Reads n.render [n.token] := by
  rcases n.exists_numeral with ⟨m, written, wellFormed, -⟩ | missing
  · rw [Number.token, Number.numeral?_of_written written wellFormed, written]
    exact reads_written wellFormed
  · rw [Number.token, Number.numeral?, missing]
    exact reads_name (by decide) (by decide) rfl

theorem closes_key (key : Option String) :
    Closes (renderKey key ++ [':']) [.text (some (key.getD "")), .colon] := by
  have name := closes_quoted (key.getD "").toList
  rw [String.ofList_toList] at name
  exact name.append (closes_punctuation rfl).2

mutual

theorem reads_render : (v : Json) → Reads v.render v.tokens
  | .null => by rw [render, tokens]; exact reads_name (by decide) (by decide) rfl
  | .bool true => by rw [render, tokens]; exact reads_name (by decide) (by decide) rfl
  | .bool false => by rw [render, tokens]; exact reads_name (by decide) (by decide) rfl
  | .number n => by rw [render, tokens]; exact reads_number n
  | .text s => by
    have text := closes_quoted s.toList
    rw [String.ofList_toList] at text
    rw [render, tokens]
    exact text.reads
  | .unreadable => by rw [render, tokens]; exact reads_name (by decide) (by decide) rfl
  | .list items => by
    rw [render, tokens]
    exact ((closes_punctuation rfl).2.append ((reads_renderItems items).punctuated rfl)).reads
  | .object members => by
    rw [render, tokens]
    exact ((closes_punctuation rfl).2.append ((reads_renderMembers members).punctuated rfl)).reads

theorem reads_renderItems : (items : List Json) → Reads (renderItems items) (tokensOfItems items)
  | [] => fun _ => ⟨_, rfl, rfl⟩
  | [v] => by rw [renderItems, tokensOfItems]; exact reads_render v
  | v :: w :: rest => by
    rw [renderItems, tokensOfItems]
    exact (reads_render v).separated rfl (reads_renderItems (w :: rest))

theorem reads_renderMembers : (members : List (Option String × Json)) →
    Reads (renderMembers members) (tokensOfMembers members)
  | [] => fun _ => ⟨_, rfl, rfl⟩
  | [(key, v)] => by
    rw [renderMembers, tokensOfMembers, List.append_cons]
    exact (closes_key key).append_reads (reads_render v)
  | (key, v) :: m :: rest => by
    rw [renderMembers, tokensOfMembers, List.append_cons]
    exact (closes_key key).append_reads
      ((reads_render v).separated rfl (reads_renderMembers (m :: rest)))

end

end Lexer

/-- The text of a document gives its tokens. -/
theorem tokens?_render (v : Json) : tokens? v.render = some v.tokens :=
  (Lexer.reads_render v).tokens?

/-! ### From tokens to documents -/

namespace Reader

theorem begin?_token (n : Number) (frames : List Frame) :
    begin? frames n.token = some (.complete n.reread frames) := by
  rw [Number.token, Number.reread]
  cases n.numeral? with
  | none => rfl
  | some m =>
    dsimp only
    cases m.value? <;> rfl

/-- The first token of a document is not the end of a list. -/
theorem exists_tokens_cons (v : Json) :
    ∃ t ts, v.tokens = t :: ts ∧
      ∀ frames, step (.firstItem frames) t = begin? (.list [] :: frames) t := by
  cases v with
  | number n =>
    refine ⟨n.token, [], rfl, fun frames => ?_⟩
    rw [Number.token]
    cases n.numeral? <;> rfl
  | _ => exact ⟨_, _, by rw [tokens], fun _ => rfl⟩

/-- So a reader at the beginning of a list reads the first item like any other. -/
theorem foldlM_firstItem (v : Json) (rest : List Json) (frames : List Frame) :
    (tokensOfItems (v :: rest) ++ [Token.closeList]).foldlM step (.firstItem frames) =
      (tokensOfItems (v :: rest) ++ [Token.closeList]).foldlM step
        (.value (.list [] :: frames)) := by
  have behind : ∃ others, tokensOfItems (v :: rest) = v.tokens ++ others := by
    cases rest with
    | nil => exact ⟨[], by rw [tokensOfItems, List.append_nil]⟩
    | cons w rest => exact ⟨_, by rw [tokensOfItems]⟩
  obtain ⟨others, items⟩ := behind
  obtain ⟨t, ts, written, first⟩ := exists_tokens_cons v
  rw [items, written, List.cons_append, List.cons_append, List.foldlM_cons, List.foldlM_cons, first]
  rfl

mutual

/-- The tokens of a document give the document where a value has to follow. -/
theorem foldlM_tokens : (v : Json) → ∀ frames,
    v.tokens.foldlM step (.value frames) = some (.complete v.reread frames)
  | .null, _ => rfl
  | .bool _, _ => rfl
  | .number n, frames => by
    rw [tokens, reread, List.foldlM_cons]
    change (begin? frames n.token).bind _ = _
    rw [begin?_token]
    rfl
  | .text _, _ => rfl
  | .unreadable, _ => rfl
  | .list [], _ => rfl
  | .list (v :: rest), frames => by
    have inside := foldlM_tokensOfItems (v :: rest) (List.cons_ne_nil v rest) [] frames
    rw [tokens, List.foldlM_cons]
    change (tokensOfItems (v :: rest) ++ [Token.closeList]).foldlM step (.firstItem frames) = _
    rw [foldlM_firstItem, inside]
    rfl
  | .object [], _ => rfl
  | .object (m :: rest), frames => by
    have inside := foldlM_tokensOfMembers (m :: rest) (List.cons_ne_nil m rest) [] true frames
    rw [tokens, List.foldlM_cons]
    exact inside

theorem foldlM_tokensOfItems : (items : List Json) → items ≠ [] → ∀ reversed frames,
    (tokensOfItems items ++ [Token.closeList]).foldlM step (.value (.list reversed :: frames)) =
      some (.complete (.list (reversed.reverse ++ rereadItems items)) frames)
  | [], present, _, _ => absurd rfl present
  | [v], _, reversed, frames => by
    rw [tokensOfItems, List.foldlM_append, foldlM_tokens v]
    simp [step, rereadItems]
  | v :: w :: rest, _, reversed, frames => by
    have others := foldlM_tokensOfItems (w :: rest) (List.cons_ne_nil w rest) (v.reread :: reversed)
      frames
    rw [tokensOfItems, List.append_assoc, List.foldlM_append, foldlM_tokens v]
    change (tokensOfItems (w :: rest) ++ [Token.closeList]).foldlM step
      (.value (.list (v.reread :: reversed) :: frames)) = _
    rw [others]
    simp [rereadItems]

theorem foldlM_tokensOfMembers : (members : List (Option String × Json)) → members ≠ [] →
    ∀ reversed isFirst frames,
      (tokensOfMembers members ++ [Token.closeObject]).foldlM step (.key reversed isFirst frames) =
        some (.complete (.object (reversed.reverse ++ rereadMembers members)) frames)
  | [], present, _, _, _ => absurd rfl present
  | [(name, v)], _, reversed, isFirst, frames => by
    rw [tokensOfMembers]
    -- the name and the colon lead to where the value has to follow
    change (v.tokens ++ [Token.closeObject]).foldlM step
      (.value (.member reversed (some (name.getD "")) :: frames)) = _
    rw [List.foldlM_append, foldlM_tokens v]
    simp [step, rereadMembers]
  | (name, v) :: m :: rest, _, reversed, isFirst, frames => by
    have others := foldlM_tokensOfMembers (m :: rest) (List.cons_ne_nil m rest)
      ((some (name.getD ""), v.reread) :: reversed) false frames
    rw [tokensOfMembers]
    change (v.tokens ++ Token.comma :: tokensOfMembers (m :: rest) ++ [Token.closeObject]).foldlM
      step (.value (.member reversed (some (name.getD "")) :: frames)) = _
    rw [List.append_assoc, List.foldlM_append, foldlM_tokens v]
    change (tokensOfMembers (m :: rest) ++ [Token.closeObject]).foldlM step
      (.key ((some (name.getD ""), v.reread) :: reversed) false frames) = _
    rw [others]
    simp [rereadMembers]

end

end Reader

/-- The tokens of a document give the document. -/
theorem ofTokens?_tokens (v : Json) : ofTokens? v.tokens = some v.reread := by
  rw [ofTokens?, Reader.foldlM_tokens]
  rfl

/-- A text that gives the tokens of a document's text is read as the document. -/
theorem ofText?_of_tokens? {text : String} {v : Json}
    (same : tokens? text.toList = tokens? v.render) : ofText? text = some v.reread := by
  rw [ofText?, same, tokens?_render, Option.bind_some, ofTokens?_tokens]

theorem toList_toText (v : Json) : v.toText.toList = v.render :=
  String.toList_ofList

/-- The text of a document is read as the document. -/
theorem ofText?_toText (v : Json) : ofText? v.toText = some v.reread :=
  ofText?_of_tokens? (congrArg tokens? v.toList_toText)

/-! ### What is read -/

theorem rereadMembers_named (members : List (String × Json)) :
    rereadMembers (named members) = named (members.map fun m => (m.1, m.2.reread)) := by
  induction members with
  | nil => rfl
  | cons m rest ih =>
    rw [named, List.map_cons, rereadMembers, ← named, ih]
    rfl

theorem rereadMembers_eq_map (members : List (Option String × Json)) :
    rereadMembers members = members.map fun m => (some (m.1.getD ""), m.2.reread) := by
  induction members with
  | nil => rfl
  | cons m rest ih => rw [rereadMembers, ih, List.map_cons]

theorem rereadItems_eq_map (items : List Json) : rereadItems items = items.map reread := by
  induction items with
  | nil => rfl
  | cons v rest ih => rw [rereadItems, ih, List.map_cons]

mutual

/-- What is read has a value everywhere. -/
theorem isReadable_reread : (v : Json) → v.reread.isReadable = true
  | .null => rfl
  | .bool _ => rfl
  | .number n => by
    rw [reread]
    rcases n.reread_cases with ⟨k, number⟩ | nothing
    · rw [number]
      rfl
    · rw [nothing]
      rfl
  | .text _ => rfl
  | .unreadable => rfl
  | .list items => areItemsReadable_reread items
  | .object members => areMembersReadable_reread members

theorem areItemsReadable_reread : (items : List Json) → areItemsReadable (rereadItems items) = true
  | [] => rfl
  | v :: rest => by
    rw [rereadItems, areItemsReadable, isReadable_reread v, areItemsReadable_reread rest]
    rfl

theorem areMembersReadable_reread :
    (members : List (Option String × Json)) → areMembersReadable (rereadMembers members) = true
  | [] => rfl
  | (key, v) :: rest => by
    rw [rereadMembers, areMembersReadable, isReadable_reread v, areMembersReadable_reread rest]
    rfl

end

mutual

/-- What is read is nested as before. -/
theorem depth_reread : (v : Json) → v.reread.depth = v.depth
  | .null => rfl
  | .bool _ => rfl
  | .number n => by
    rw [reread]
    rcases n.reread_cases with ⟨k, number⟩ | nothing
    · rw [number]
      rfl
    · rw [nothing]
      rfl
  | .text _ => rfl
  | .unreadable => rfl
  | .list items => by rw [reread, depth, depth, depthOfItems_reread items]
  | .object members => by rw [reread, depth, depth, depthOfMembers_reread members]

theorem depthOfItems_reread : (items : List Json) →
    depthOfItems (rereadItems items) = depthOfItems items
  | [] => rfl
  | v :: rest => by
    rw [rereadItems, depthOfItems, depthOfItems, depth_reread v, depthOfItems_reread rest]

theorem depthOfMembers_reread : (members : List (Option String × Json)) →
    depthOfMembers (rereadMembers members) = depthOfMembers members
  | [] => rfl
  | (key, v) :: rest => by
    rw [rereadMembers, depthOfMembers, depthOfMembers, depth_reread v, depthOfMembers_reread rest]

end

/-! ### Values -/

@[simp] theorem reread_ofWord64 (n : UInt64) : (ofWord64 n).reread = ofWord64 n :=
  Number.reread_natural n

@[simp] theorem reread_ofWord32 (n : UInt32) : (ofWord32 n).reread = ofWord32 n :=
  Number.reread_natural n.toUInt64

@[simp] theorem reread_ofOption (text : Option String) :
    (ofOption text).reread = ofOption text := by
  cases text <;> rfl

@[simp] theorem reread_ofStrings (texts : List String) :
    (ofStrings texts).reread = ofStrings texts := by
  rw [ofStrings, reread, rereadItems_eq_map, List.map_map]
  rfl

end Json

/-- A cached number reads back. -/
theorem Codec.decode_word32 (n : UInt32) : word32.decode (Json.ofWord32 n).toText = some n := by
  change (Json.ofText? (Json.ofWord32 n).toText).bind Json.word32? = some n
  rw [Json.ofText?_toText, Json.reread_ofWord32, Option.bind_some, Json.word32?_ofWord32]

end ChainActivity
