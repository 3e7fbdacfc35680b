import ChainActivity.Cache.Clock

/-!
# Connecting to a durable tier

A connection is tried several times, and the pauses between the attempts double up to
a limit.

## Main definitions

* `ConnectionConfig` — the settings of a connection.
* `ConnectionConfig.backoff` — the pause before an attempt.
-/

namespace ChainActivity

/-- The settings of a connection to a durable tier.  Times are in milliseconds. -/
structure ConnectionConfig where
  url : String := "redis://127.0.0.1:6379"
  maxAttempts : UInt32 := 5
  initialBackoff : UInt64 := 100
  maxBackoff : UInt64 := 5000
  timeout : UInt64 := 2000
  deriving DecidableEq, Repr

/-- How often the pause is doubled at most. -/
def ConnectionConfig.maxDoublings : UInt32 := 10

/-- The pause before an attempt: the first pause, doubled once for each earlier attempt, and
never more than the limit.  The doubled pause must fit into sixty-four bits, or the call is
broken off before the limit is looked at. -/
def ConnectionConfig.backoff (c : ConnectionConfig) (attempt : UInt32) : Ending UInt64 :=
  let doubled := c.initialBackoff.toNat * (1 <<< (min attempt maxDoublings).toNat)
  if doubled < UInt64.size then .value (min (UInt64.ofNat doubled) c.maxBackoff) else .broken

end ChainActivity
