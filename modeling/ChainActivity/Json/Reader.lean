import ChainActivity.Json.Token

/-!
# Reading JSON text

A reader takes tokens one by one.  It keeps the lists and objects that are open, so
that reading needs no recursion and the nesting has no bound.

## Main definitions

* `Json.Frame` — a list or an object that is open.
* `Json.Reader` — what has been read, by what has to follow.
* `Json.ofTokens?`, `Json.ofText?` — the document that tokens, or a text, denote.
-/

namespace ChainActivity.Json

/-- A list or an object that is open, with what it holds so far, last one first. -/
inductive Frame where
  | list (reversed : List Json)
  /-- An object whose next member has this name and waits for its value. -/
  | member (reversed : List (Option String × Json)) (key : Option String)
  deriving Repr

/-- What has been read, by what has to follow.  Open frames stand innermost first. -/
inductive Reader where
  /-- A value has to follow. -/
  | value (frames : List Frame)
  /-- The first item of a list, or its end. -/
  | firstItem (frames : List Frame)
  /-- A name of a member; or, if nothing but the bracket was read, the end of the
  object. -/
  | key (reversed : List (Option String × Json)) (isFirst : Bool) (frames : List Frame)
  /-- The colon behind the name of a member. -/
  | colon (reversed : List (Option String × Json)) (key : Option String) (frames : List Frame)
  /-- A value is complete. -/
  | complete (value : Json) (frames : List Frame)
  deriving Repr

namespace Reader

/-- Reads a token that begins a value. -/
def begin? (frames : List Frame) : Token → Option Reader
  | .null => some (.complete .null frames)
  | .bool b => some (.complete (.bool b) frames)
  | .number (some n) => some (.complete (.number n) frames)
  | .number none => some (.complete .unreadable frames)
  | .text (some s) => some (.complete (.text s) frames)
  | .text none => some (.complete .unreadable frames)
  | .openList => some (.firstItem frames)
  | .openObject => some (.key [] true frames)
  | _ => none

/-- Reads one token. -/
def step : Reader → Token → Option Reader
  | .value frames, t => begin? frames t
  | .firstItem frames, .closeList => some (.complete (.list []) frames)
  | .firstItem frames, t => begin? (.list [] :: frames) t
  | .key reversed _ frames, .text k => some (.colon reversed k frames)
  | .key _ true frames, .closeObject => some (.complete (.object []) frames)
  | .colon reversed k frames, .colon => some (.value (.member reversed k :: frames))
  | .complete v (.list reversed :: frames), .comma => some (.value (.list (v :: reversed) :: frames))
  | .complete v (.list reversed :: frames), .closeList =>
    some (.complete (.list (v :: reversed).reverse) frames)
  | .complete v (.member reversed k :: frames), .comma =>
    some (.key ((k, v) :: reversed) false frames)
  | .complete v (.member reversed k :: frames), .closeObject =>
    some (.complete (.object ((k, v) :: reversed).reverse) frames)
  | _, _ => none

/-- The document, if nothing is open. -/
def finish? : Reader → Option Json
  | .complete v [] => some v
  | _ => none

end Reader

/-- The document that tokens denote. -/
def ofTokens? (tokens : List Token) : Option Json :=
  (tokens.foldlM Reader.step (.value [])).bind Reader.finish?

/-- The document that a text denotes. -/
def ofText? (text : String) : Option Json :=
  (tokens? text.toList).bind ofTokens?

end ChainActivity.Json
