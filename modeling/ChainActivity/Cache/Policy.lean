import ChainActivity.Cache.Clock

/-!
# Cache policies

Cached values fall into domains.  A policy says how long the values of a domain live
and whether they are produced one at a time.

## Main definitions

* `Domain` — the domains, with `Domain.name`.
* `Policy` — a lifetime, and whether production is exclusive.
* `CacheConfig` — a policy for each domain, and the name that all keys begin with.
* `Slot`, `CacheConfig.key` — the place of a value and its key.
-/

namespace ChainActivity

/-- A category of cached values. -/
inductive Domain where
  | tokenDecimals
  | tokenMetadata
  | providers
  | providerIdentity
  | nodes
  | economics
  deriving DecidableEq, Repr

namespace Domain

/-- All domains. -/
def all : List Domain :=
  [tokenDecimals, tokenMetadata, providers, providerIdentity, nodes, economics]

/-- The name of a domain in keys. -/
def name : Domain → String
  | tokenDecimals => "tokenDecimals"
  | tokenMetadata => "tokenMetadata"
  | providers => "providers"
  | providerIdentity => "providerIdentity"
  | nodes => "nodes"
  | economics => "economics"

/-- The domain of a name. -/
def ofName? (name : String) : Option Domain :=
  all.find? fun d => d.name = name

end Domain

/-- How the values of a domain are kept. -/
structure Policy where
  /-- How long a value lives, in nanoseconds. -/
  lifetime : Nat
  /-- Whether at most one value of the domain is produced at a time. -/
  isExclusive : Bool
  deriving DecidableEq, Repr

/-- The policy whose values live for whole seconds. -/
def Policy.ofSeconds (seconds : UInt64) (isExclusive : Bool) : Policy :=
  ⟨Duration.seconds seconds.toNat, isExclusive⟩

/-- The policy of domains for which no other is given. -/
def Policy.standard : Policy := .ofSeconds 600 false

/-- The settings of a cache. -/
structure CacheConfig where
  /-- The name that all keys begin with. -/
  space : String
  policy : Domain → Policy

namespace CacheConfig

/-- The name that keys begin with unless another is given. -/
def standardSpace : String := "txnscope"

/-- Every domain has the standard policy. -/
def plain : CacheConfig := ⟨standardSpace, fun _ => .standard⟩

/-- Gives a domain its policy. -/
def withPolicy (c : CacheConfig) (domain : Domain) (policy : Policy) : CacheConfig :=
  { c with policy := fun d => if d = domain then policy else c.policy d }

/-- Gives keys another beginning. -/
def withSpace (c : CacheConfig) (space : String) : CacheConfig :=
  { c with space := space }

/-- The settings of an ordinary cache. -/
def standard : CacheConfig where
  space := standardSpace
  policy
    | .tokenDecimals => .ofSeconds 86400 true
    | .tokenMetadata => .ofSeconds 3600 false
    | .providers => .ofSeconds 600 true
    | .providerIdentity => .ofSeconds 86400 false
    | .nodes => .ofSeconds 300 true
    | .economics => .ofSeconds 600 true

/-- How long the values of a domain live. -/
def lifetime (c : CacheConfig) (domain : Domain) : Nat :=
  (c.policy domain).lifetime

/-- Whether at most one value of a domain is produced at a time. -/
def isExclusive (c : CacheConfig) (domain : Domain) : Bool :=
  (c.policy domain).isExclusive

end CacheConfig

/-- The place of a cached value: a domain, and perhaps a part of it. -/
structure Slot where
  domain : Domain
  part : Option String
  deriving DecidableEq, Repr

/-- The key of a slot. -/
def CacheConfig.key (c : CacheConfig) (slot : Slot) : String :=
  match slot.part with
  | none => c.space ++ ":" ++ slot.domain.name
  | some part => c.space ++ ":" ++ slot.domain.name ++ ":" ++ part

end ChainActivity
