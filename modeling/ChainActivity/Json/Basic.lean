import ChainActivity.Json.Number

/-!
# JSON documents

A document is kept as it was written: members stand in their order, and a member
that is given twice is there twice.  What a reader of the document does with that
is its own affair.

## Main definitions

* `Json` — a document.
* `Json.depth` — how deeply lists and objects are nested.
* `Json.isReadable` — whether every literal of the document has a value.
* `Json.normal` — the document with its members sorted and without repetitions.

## Design notes

A text literal may hold half of a surrogate pair and a number may be too large;
such a literal is well formed but has no value.  It is kept as `Json.unreadable`
(as a missing name, if it is the name of a member), because a document stays
readable as long as nobody asks for that value.
-/

namespace ChainActivity

/-- A document.  The name of a member is missing if it has no value. -/
inductive Json where
  | null
  | bool (value : Bool)
  | number (value : Json.Number)
  | text (value : String)
  /-- A literal that has no value. -/
  | unreadable
  | list (items : List Json)
  | object (members : List (Option String × Json))
  deriving Inhabited, Repr

namespace Json

mutual

/-- How deeply lists and objects are nested; zero for a literal. -/
def depth : Json → Nat
  | .list items => depthOfItems items + 1
  | .object members => depthOfMembers members + 1
  | _ => 0

/-- The largest depth of a list of documents. -/
def depthOfItems : List Json → Nat
  | [] => 0
  | v :: rest => max (depth v) (depthOfItems rest)

/-- The largest depth of the values of members. -/
def depthOfMembers : List (Option String × Json) → Nat
  | [] => 0
  | (_, v) :: rest => max (depth v) (depthOfMembers rest)

end

mutual

/-- Whether every literal has a value. -/
def isReadable : Json → Bool
  | .unreadable => false
  | .list items => areItemsReadable items
  | .object members => areMembersReadable members
  | _ => true

/-- Whether every literal of a list of documents has a value. -/
def areItemsReadable : List Json → Bool
  | [] => true
  | v :: rest => isReadable v && areItemsReadable rest

/-- Whether every name and every literal of members has a value. -/
def areMembersReadable : List (Option String × Json) → Bool
  | [] => true
  | (key, v) :: rest => key.isSome && isReadable v && areMembersReadable rest

end

/-- Whether one name comes before another: by code points, a missing name first. -/
def keyBefore : Option String → Option String → Bool
  | none, some _ => true
  | some j, some k => j < k
  | _, none => false

/-- Puts a member at its place among members sorted by name, instead of a member
of the same name. -/
def insertMember (key : Option String) (value : Json) :
    List (Option String × Json) → List (Option String × Json)
  | [] => [(key, value)]
  | (k, v) :: rest =>
    if key = k then (key, value) :: rest
    else if keyBefore key k then (key, value) :: (k, v) :: rest
    else (k, v) :: insertMember key value rest

mutual

/-- The document with the members of every object sorted by name; of two members
with one name the later one stays. -/
def normal : Json → Json
  | .list items => .list (normalItems items)
  | .object members => .object (normalMembers [] members)
  | literal => literal

/-- The normal forms of a list of documents. -/
def normalItems : List Json → List Json
  | [] => []
  | v :: rest => normal v :: normalItems rest

/-- Adds the normal forms of members to members that are sorted already. -/
def normalMembers (sorted : List (Option String × Json)) :
    List (Option String × Json) → List (Option String × Json)
  | [] => sorted
  | (key, v) :: rest => normalMembers (insertMember key (normal v) sorted) rest

end

/-- The deepest nesting of a document that is read as a whole. -/
def maxDepth : Nat := 127

/-- A document read as a whole: every literal must have a value and the nesting is
bounded. -/
def whole? (v : Json) : Option Json :=
  if v.isReadable ∧ v.depth ≤ maxDepth then some v.normal else none

end Json

end ChainActivity
