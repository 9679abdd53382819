import HighperfServer.Construction.Middleware.RateLimiter
import HighperfServer.Library.Execution

namespace HighperfServer.Middleware
open Library

/-- The map spreads the addresses over shards with one lock each. -/
structure Shards where
  count : Nat
  shardOf : IpAddr → Fin count

/-- `evict_stale` walks the shards three times: for the length before, for the sweep itself and for
the length after it. -/
inductive Pass where
  | lengthBefore
  | retain
  | lengthAfter
  deriving DecidableEq, Repr

inductive LimiterCall where
  | counting (ip : IpAddr)
  | reading (next : Option IpAddr)
  | waiting (next : Option IpAddr) (cutoff : ℚ) (pass : Pass) (shard : Nat)
  | visiting (next : Option IpAddr) (cutoff : ℚ) (pass : Pass) (shard : Nat)
  | entering (ip : IpAddr)
  | holding (ip : IpAddr)
  | finished
  deriving DecidableEq, Repr

def LimiterCall.afterSweep : Option IpAddr → LimiterCall
  | some ip => .entering ip
  | none => .finished

def LimiterCall.afterPass (next : Option IpAddr) (cutoff : ℚ) : Pass → LimiterCall
  | .lengthBefore => .waiting next cutoff .retain 0
  | .retain => .waiting next cutoff .lengthAfter 0
  | .lengthAfter => .afterSweep next

/-- The answers are kept in the order in which the tokens were consumed. -/
structure SharedLimiter where
  limiter : RateLimiter
  clock : ℚ
  calls : List LimiterCall
  answers : List Answer

namespace SharedLimiter

inductive Event where
  | elapse (duration : ℚ)
  | check (ip : IpAddr)
  | sweep
  | run (call : Nat)
  deriving DecidableEq, Repr

def start (rateRps : Nat) (clock : ℚ) : SharedLimiter where
  limiter := RateLimiter.new rateRps
  clock
  calls := []
  answers := []

def writes (shards : Shards) (shard : Nat) : LimiterCall → Bool
  | .visiting _ _ .retain visited => visited = shard
  | .holding ip => (shards.shardOf ip).val = shard
  | _ => false

def reads (shard : Nat) : LimiterCall → Bool
  | .visiting _ _ .lengthBefore visited => visited = shard
  | .visiting _ _ .lengthAfter visited => visited = shard
  | _ => false

/-- A shard is read while nobody writes it and written while nobody else uses it. -/
def available (shards : Shards) (shared : SharedLimiter) (shard : Nat) (write : Bool) : Bool :=
  !shared.calls.any (writes shards shard) && !(write && shared.calls.any (reads shard))

def setCall (shared : SharedLimiter) (index : Nat) (call : LimiterCall) : SharedLimiter :=
  { shared with calls := shared.calls.set index call }

def count (shared : SharedLimiter) (index : Nat) (ip : IpAddr) : SharedLimiter :=
  -- `fetch_add` hands out the count before the addition.
  let n := shared.limiter.checkCount
  { shared.setCall index
      (if 0 < n ∧ n % evictEveryNChecks = 0 then .reading (some ip) else .entering ip) with
    limiter := { shared.limiter with checkCount := (n + 1) % 2 ^ 64 } }

def readCutoff (origin : ℚ) (shared : SharedLimiter) (index : Nat) (next : Option IpAddr) :
    SharedLimiter :=
  shared.setCall index
    (match checkedSub origin shared.clock staleBucketTtl with
    | none => .afterSweep next
    | some cutoff => .waiting next cutoff .lengthBefore 0)

def lockShard (shards : Shards) (shared : SharedLimiter) (index : Nat) (next : Option IpAddr)
    (cutoff : ℚ) (pass : Pass) (shard : Nat) : Option SharedLimiter :=
  if shard < shards.count then
    if shared.available shards shard (pass = .retain) then
      some (shared.setCall index (.visiting next cutoff pass shard))
    else none
  else some (shared.setCall index (.afterPass next cutoff pass))

def leaveShard (shards : Shards) (shared : SharedLimiter) (index : Nat) (next : Option IpAddr)
    (cutoff : ℚ) (pass : Pass) (shard : Nat) : SharedLimiter :=
  let passed := shared.setCall index (.waiting next cutoff pass (shard + 1))
  match pass with
  | .lengthBefore | .lengthAfter => passed
  | .retain =>
      { passed with
        limiter := { shared.limiter with
          buckets := shared.limiter.buckets.keep fun entry =>
            (shards.shardOf entry.1).val ≠ shard || cutoff ≤ entry.2.lastRefill } }

def enterShard (shards : Shards) (shared : SharedLimiter) (index : Nat) (ip : IpAddr) :
    Option SharedLimiter :=
  if shared.available shards (shards.shardOf ip) true then
    some { shared.setCall index (.holding ip) with
      limiter := { shared.limiter with
        buckets := match shared.limiter.buckets.lookup ip with
          | some _ => shared.limiter.buckets
          | none => shared.limiter.buckets.put
              (ip, TokenBucket.new shared.limiter.rateRps shared.clock) } }
  else none

def consume (shared : SharedLimiter) (index : Nat) (ip : IpAddr) : Option SharedLimiter :=
  (shared.limiter.buckets.lookup ip).map fun entry =>
    let result := entry.2.tryConsume shared.clock
    { shared.setCall index .finished with
      limiter := { shared.limiter with buckets := shared.limiter.buckets.put (ip, result.2) }
      answers := shared.answers ++ [⟨ip, shared.clock, result.1⟩] }

def advance (origin : ℚ) (shards : Shards) (shared : SharedLimiter) (index : Nat) :
    LimiterCall → Option SharedLimiter
  | .counting ip => some (shared.count index ip)
  | .reading next => some (shared.readCutoff origin index next)
  | .waiting next cutoff pass shard => shared.lockShard shards index next cutoff pass shard
  | .visiting next cutoff pass shard => some (shared.leaveShard shards index next cutoff pass shard)
  | .entering ip => shared.enterShard shards index ip
  | .holding ip => shared.consume index ip
  | .finished => none

/-- Time passes, calls begin, and each call takes its next atomic step. -/
def step (origin : ℚ) (shards : Shards) (shared : SharedLimiter) : Event → Option SharedLimiter
  | .elapse duration =>
      if 0 ≤ duration then some { shared with clock := shared.clock + duration } else none
  | .check ip => some { shared with calls := shared.calls ++ [.counting ip] }
  | .sweep => some { shared with calls := shared.calls ++ [.reading none] }
  | .run index => (shared.calls[index]?).bind (shared.advance origin shards index)

def machine (origin : ℚ) (shards : Shards) (rateRps : Nat) (clock : ℚ) :
    Machine SharedLimiter Event where
  initial := start rateRps clock
  step := step origin shards

end SharedLimiter

end HighperfServer.Middleware
