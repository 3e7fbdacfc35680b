import ChainActivity.Cache.Basic
import ChainActivity.Token.Decimals

/-!
# The directory of decimal places

The decimal places of tokens are asked of a source and kept in a cache.  Every item of
a collection has the decimal places of the collection, so that collections are asked
for and not items.

## Main definitions

* `SourceError` — why a source has no answer.
* `Directory.decimals` — the decimal places of a token.
* `Directory.tableFor` — a table of the decimal places of tokens.
* `DecimalsTable.source` — a table as a source.
-/

namespace ChainActivity

/-- Why a source has no answer. -/
inductive SourceError where
  | notFound (token : String)
  | failed (reason : String)
  deriving DecidableEq, Repr

/-- The error in words. -/
def SourceError.message : SourceError → String
  | .notFound token => s!"Not found: {token}"
  | .failed reason => s!"Upstream request failed: {reason}"

/-- What a source answers. -/
abbrev SourceReply := Except SourceError UInt32

/-- A table as a source. -/
def DecimalsTable.source (table : DecimalsTable) (token : String) : SourceReply :=
  match table.find? token with
  | some places => .ok places
  | none => .error (.notFound token)

namespace Directory

/-- The slot of the decimal places of a collection. -/
def slot (collection : String) : Slot := ⟨.tokenDecimals, some collection⟩

/-- The decimal places of a token.  Those of the native token are known. -/
def decimals (config : CacheConfig) (token : String) :
    Program String SourceReply (Ending SourceReply) :=
  if token = Token.native then pure (.value (.ok Token.nativeDecimals))
  else
    let collection := Token.collection token
    Cache.getOrProduce config .word32 (slot collection) collection

/-- Adds the decimal places of tokens to a table, one after the other.  Tokens without
an answer are left out. -/
def extend (config : CacheConfig) (table : DecimalsTable) :
    List String → Program String SourceReply (Ending DecimalsTable)
  | [] => pure (.value table)
  | token :: rest => do
    match ← decimals config token with
    | .value (.ok places) => extend config (table.insert (Token.collection token) places) rest
    | .value (.error _) => extend config table rest
    | .broken => pure .broken

/-- A table of the decimal places of tokens. -/
def tableFor (config : CacheConfig) (tokens : List String) :
    Program String SourceReply (Ending DecimalsTable) :=
  extend config .nativeOnly tokens

end Directory

end ChainActivity
