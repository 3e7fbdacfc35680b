import ChainActivity.Decimal.Layout
import ChainActivity.Json.Basic

/-!
# Writing JSON text

Documents are written without spaces, members in their order.  In a quoted text
only the quote, the backslash and the control characters are escaped.

## Main definitions

* `Json.escaped` — a character as it stands in a quoted text.
* `Json.quoted` — a text in quotes.
* `Json.render`, `Json.toText` — the text of a document.
-/

namespace ChainActivity.Json

/-- A character as it stands between quotes. -/
def escaped (c : Char) : List Char :=
  if c = '"' then ['\\', '"']
  else if c = '\\' then ['\\', '\\']
  else if c = '\x08' then ['\\', 'b']
  else if c = '\x0c' then ['\\', 'f']
  else if c = '\n' then ['\\', 'n']
  else if c = '\r' then ['\\', 'r']
  else if c = '\t' then ['\\', 't']
  else if c < ' ' then
    ['\\', 'u', '0', '0', Nat.digitChar (c.toNat / 16), Nat.digitChar (c.toNat % 16)]
  else [c]

/-- A text in quotes. -/
def quoted (cs : List Char) : List Char :=
  '"' :: (cs.flatMap escaped ++ ['"'])

/-- A number.  A double that is not finite has no numeral and is written as `null`. -/
def Number.render : Number → List Char
  | .natural n => Nat.toDigits 10 n.toNat
  | .negative n => '-' :: Nat.toDigits 10 n.toNat
  | .real x => if x.isFinite then Layout.json.render x else "null".toList

/-- The name of a member; a missing name is written as an empty one. -/
def renderKey (key : Option String) : List Char :=
  quoted (key.getD "").toList

mutual

/-- The text of a document. -/
def render : Json → List Char
  | .null => "null".toList
  | .bool b => if b then "true".toList else "false".toList
  | .number n => n.render
  | .text s => quoted s.toList
  | .unreadable => "null".toList
  | .list items => '[' :: (renderItems items ++ [']'])
  | .object members => '\x7b' :: (renderMembers members ++ ['\x7d'])

/-- The texts of documents with commas between them. -/
def renderItems : List Json → List Char
  | [] => []
  | [v] => render v
  | v :: w :: rest => render v ++ ',' :: renderItems (w :: rest)

/-- The texts of members with commas between them. -/
def renderMembers : List (Option String × Json) → List Char
  | [] => []
  | [(key, v)] => renderKey key ++ ':' :: render v
  | (key, v) :: m :: rest => renderKey key ++ ':' :: (render v ++ ',' :: renderMembers (m :: rest))

end

/-- The text of a document. -/
def toText (v : Json) : String :=
  String.ofList v.render

end ChainActivity.Json
