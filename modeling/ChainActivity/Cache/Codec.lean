import ChainActivity.Json.Reader
import ChainActivity.Json.Record
import ChainActivity.Json.Writer

/-!
# Texts of cached values

A cache keeps values as texts.  A codec writes and reads them; writing may be refused,
and a text that was written for another kind of value may not be read.

## Main definitions

* `Codec` — writing and reading the values of a type.
* `Codec.ofDocuments` — writing and reading by way of JSON documents.
* `Codec.word32`, `Codec.documents` — whole numbers, and any document.
-/

namespace ChainActivity

/-- Writing and reading the values of a type. -/
structure Codec (α : Type) where
  /-- The text of a value, or why there is none. -/
  encode : α → Except String String
  decode : String → Option α

namespace Codec

/-- Writing and reading by way of JSON documents. -/
def ofDocuments {α : Type} (write : α → Json) (read : Json → Option α) : Codec α where
  encode a := .ok (write a).toText
  decode text := (Json.ofText? text).bind read

/-- Whole numbers of thirty-two bits. -/
def word32 : Codec UInt32 :=
  ofDocuments Json.ofWord32 Json.word32?

/-- Any document. -/
def documents : Codec Json :=
  ofDocuments Json.normal Json.whole?

/-- The codec that refuses to write. -/
def refusing {α : Type} (codec : Codec α) (reason : String) : Codec α :=
  { codec with encode := fun _ => .error reason }

end Codec

end ChainActivity
