import HighperfServer.Construction.Config
import HighperfServer.Library.Table
import Mathlib.Algebra.Group.Nat.Defs
import Mathlib.Algebra.Order.Ring.Unbundled.Rat

namespace HighperfServer.Middleware
open Library

def evictEveryNChecks : Nat := 10000

def staleBucketTtl : ℚ := 300

/-- Tokens and instants are exact rationals, in tokens and seconds. -/
structure TokenBucket where
  tokens : ℚ
  capacity : ℚ
  lastRefill : ℚ
  rate : ℚ
  deriving DecidableEq, Repr

def TokenBucket.new (rateRps : Nat) (now : ℚ) : TokenBucket where
  tokens := rateRps
  capacity := rateRps
  lastRefill := now
  rate := rateRps

/-- `Instant::duration_since` saturates at zero. -/
def durationSince (now earlier : ℚ) : ℚ := max (now - earlier) 0

def TokenBucket.tryConsume (bucket : TokenBucket) (now : ℚ) : Bool × TokenBucket :=
  let elapsed := durationSince now bucket.lastRefill
  let tokens := min (bucket.tokens + elapsed * bucket.rate) bucket.capacity
  if 1 ≤ tokens then
    (true, { bucket with lastRefill := now, tokens := tokens - 1 })
  else
    (false, { bucket with lastRefill := now, tokens })

abbrev Buckets := Table (Prod.fst : IpAddr × TokenBucket → IpAddr)

structure RateLimiter where
  buckets : Buckets
  rateRps : Nat
  checkCount : Nat

def RateLimiter.new (rateRps : Nat) : RateLimiter where
  buckets := Table.empty
  rateRps
  checkCount := 0

/-- `Instant::checked_sub` fails before the earliest instant that the clock represents. -/
def checkedSub (origin now duration : ℚ) : Option ℚ :=
  if origin ≤ now - duration then some (now - duration) else none

def RateLimiter.evictStale (origin : ℚ) (limiter : RateLimiter) (now : ℚ) : RateLimiter :=
  match checkedSub origin now staleBucketTtl with
  | none => limiter
  | some cutoff =>
      { limiter with buckets := limiter.buckets.keep fun entry => cutoff ≤ entry.2.lastRefill }

/-- A check first counts itself, wrapping at 64 bits, and sweeps on every 10 000th call. -/
def RateLimiter.countCheck (origin : ℚ) (limiter : RateLimiter) (now : ℚ) : RateLimiter :=
  let n := limiter.checkCount
  let counted := { limiter with checkCount := (n + 1) % 2 ^ 64 }
  if 0 < n ∧ n % evictEveryNChecks = 0 then counted.evictStale origin now else counted

def RateLimiter.entry (limiter : RateLimiter) (ip : IpAddr) (now : ℚ) : TokenBucket :=
  match limiter.buckets.lookup ip with
  | some found => found.2
  | none => TokenBucket.new limiter.rateRps now

def RateLimiter.check (origin : ℚ) (limiter : RateLimiter) (ip : IpAddr) (now : ℚ) :
    Bool × RateLimiter :=
  let counted := limiter.countCheck origin now
  let result := (counted.entry ip now).tryConsume now
  (result.1, { counted with buckets := counted.buckets.put (ip, result.2) })

def RateLimiter.bucketCount (limiter : RateLimiter) : Nat := limiter.buckets.rows.length

inductive Event where
  | check (ip : IpAddr) (now : ℚ)
  | sweep (now : ℚ)
  deriving DecidableEq, Repr

def Event.time : Event → ℚ
  | .check _ now => now
  | .sweep now => now

def RateLimiter.after (origin : ℚ) (limiter : RateLimiter) : Event → RateLimiter
  | .check ip now => (limiter.check origin ip now).2
  | .sweep now => limiter.evictStale origin now

structure Answer where
  ip : IpAddr
  time : ℚ
  allowed : Bool
  deriving DecidableEq, Repr

def RateLimiter.log (origin : ℚ) : RateLimiter → List Event → List Answer
  | _, [] => []
  | limiter, .check ip now :: rest =>
      ⟨ip, now, (limiter.check origin ip now).1⟩ ::
        log origin (limiter.after origin (.check ip now)) rest
  | limiter, .sweep now :: rest => log origin (limiter.after origin (.sweep now)) rest

def checkTimes (ip : IpAddr) (events : List Event) : List ℚ :=
  events.filterMap fun event =>
    match event with
    | .check other now => if other = ip then some now else none
    | .sweep _ => none

/-- A private bucket is created at the first check and is never evicted. -/
def privateAnswers (rateRps : Nat) : Option TokenBucket → List ℚ → List Bool
  | _, [] => []
  | bucket, now :: rest =>
      let result := (bucket.getD (TokenBucket.new rateRps now)).tryConsume now
      result.1 :: privateAnswers rateRps (some result.2) rest

end HighperfServer.Middleware
