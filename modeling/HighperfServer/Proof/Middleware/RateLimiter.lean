import HighperfServer.Construction.Middleware.RateLimiter
import HighperfServer.Library.Bucket
import Mathlib.Algebra.Order.Ring.Rat
import Mathlib.Data.List.Zip
import Mathlib.Tactic.Positivity

namespace HighperfServer.Middleware
open Library

/-- The limiter only ever stores buckets of its own rate with a nonnegative level. -/
structure TokenBucket.WellFormed (rateRps : Nat) (bucket : TokenBucket) : Prop where
  capacity_eq : bucket.capacity = rateRps
  rate_eq : bucket.rate = rateRps
  tokens_nonneg : 0 ≤ bucket.tokens

/-- The bucket as a level of the abstract bucket. -/
def TokenBucket.level (bucket : TokenBucket) : Bucket.Level ℚ := ⟨bucket.tokens, bucket.lastRefill⟩

/-- A new bucket is well formed. -/
theorem TokenBucket.new_wellFormed (rateRps : Nat) (now : ℚ) :
    (TokenBucket.new rateRps now).WellFormed rateRps where
  capacity_eq := rfl
  rate_eq := rfl
  tokens_nonneg := Nat.cast_nonneg rateRps

theorem durationSince_of_le {now earlier : ℚ} (ordered : earlier ≤ now) :
    durationSince now earlier = now - earlier := max_eq_left (sub_nonneg.mpr ordered)

/-- A consumption is a draw from the abstract bucket. -/
theorem TokenBucket.tryConsume_eq_draw {rateRps : Nat} {bucket : TokenBucket} {now : ℚ}
    (wellFormed : bucket.WellFormed rateRps) (later : bucket.lastRefill ≤ now) :
    (bucket.tryConsume now).1 = (Bucket.draw (rateRps : ℚ) rateRps bucket.level now).1 ∧
      (bucket.tryConsume now).2.level = (Bucket.draw (rateRps : ℚ) rateRps bucket.level now).2 := by
  have amount : min (bucket.tokens + durationSince now bucket.lastRefill * bucket.rate)
      bucket.capacity = Bucket.refill (rateRps : ℚ) rateRps bucket.level now := by
    rw [durationSince_of_le later, wellFormed.capacity_eq, wellFormed.rate_eq]
    rfl
  simp only [tryConsume, Bucket.draw, amount]
  split <;> exact ⟨rfl, rfl⟩

/-- An attempt refills the bucket up to its own time. -/
theorem TokenBucket.tryConsume_lastRefill (bucket : TokenBucket) (now : ℚ) :
    (bucket.tryConsume now).2.lastRefill = now := by
  simp only [tryConsume]
  split <;> rfl

/-- An attempt keeps the bucket well formed. -/
theorem TokenBucket.tryConsume_wellFormed {rateRps : Nat} {bucket : TokenBucket} {now : ℚ}
    (wellFormed : bucket.WellFormed rateRps) (later : bucket.lastRefill ≤ now) :
    (bucket.tryConsume now).2.WellFormed rateRps where
  capacity_eq := by
    simp only [tryConsume]
    split <;> exact wellFormed.capacity_eq
  rate_eq := by
    simp only [tryConsume]
    split <;> exact wellFormed.rate_eq
  tokens_nonneg := by
    have drawn := (tryConsume_eq_draw wellFormed later).2
    have amount : (bucket.tryConsume now).2.tokens =
        (Bucket.draw (rateRps : ℚ) rateRps bucket.level now).2.amount :=
      congrArg Bucket.Level.amount drawn
    rw [amount]
    exact Bucket.draw_amount_nonneg (Nat.cast_nonneg _) (Nat.cast_nonneg _)
      wellFormed.tokens_nonneg later

/-- A bucket idle past the TTL answers like a new bucket. -/
theorem TokenBucket.tryConsume_of_stale {rateRps : Nat} {bucket : TokenBucket} {now : ℚ}
    (wellFormed : bucket.WellFormed rateRps) (stale : bucket.lastRefill + staleBucketTtl < now) :
    bucket.tryConsume now = (TokenBucket.new rateRps now).tryConsume now := by
  have later : bucket.lastRefill ≤ now := by
    unfold staleBucketTtl at stale
    linarith
  have rateNonneg : (0 : ℚ) ≤ rateRps := Nat.cast_nonneg rateRps
  have refilled : min (bucket.tokens + durationSince now bucket.lastRefill * rateRps)
      (rateRps : ℚ) = rateRps := by
    rw [durationSince_of_le later]
    apply min_eq_right
    have idle : (1 : ℚ) ≤ now - bucket.lastRefill := by
      unfold staleBucketTtl at stale
      linarith
    have grown : 1 * (rateRps : ℚ) ≤ (now - bucket.lastRefill) * rateRps :=
      mul_le_mul_of_nonneg_right idle rateNonneg
    have stored := wellFormed.tokens_nonneg
    linarith
  have fresh : min ((rateRps : ℚ) + durationSince now now * rateRps) rateRps = rateRps := by
    rw [durationSince_of_le le_rfl, sub_self, zero_mul, add_zero, min_self]
  simp only [tryConsume, TokenBucket.new, wellFormed.capacity_eq, wellFormed.rate_eq, refilled,
    fresh]

/-- The shared map agrees with a private bucket, except that it may have dropped a stale one. -/
def Simulates (limiter : RateLimiter) (ip : IpAddr) (now : ℚ) : Option TokenBucket → Prop
  | none => limiter.buckets.lookup ip = none
  | some bucket => bucket.WellFormed limiter.rateRps ∧ bucket.lastRefill ≤ now ∧
      (limiter.buckets.lookup ip = some (ip, bucket) ∨
        limiter.buckets.lookup ip = none ∧ bucket.lastRefill + staleBucketTtl < now)

/-- A simulation persists as time passes. -/
theorem Simulates.later {limiter : RateLimiter} {ip : IpAddr} {now next : ℚ}
    {bucket : Option TokenBucket} (simulates : Simulates limiter ip now bucket)
    (ordered : now ≤ next) : Simulates limiter ip next bucket := by
  cases bucket with
  | none => exact simulates
  | some bucket =>
      obtain ⟨wellFormed, before, stored | ⟨dropped, stale⟩⟩ := simulates
      · exact ⟨wellFormed, before.trans ordered, .inl stored⟩
      · exact ⟨wellFormed, before.trans ordered, .inr ⟨dropped, stale.trans_le ordered⟩⟩

/-- The simulation reads only the map and the rate. -/
theorem Simulates.congr {limiter other : RateLimiter} {ip : IpAddr} {now : ℚ}
    {bucket : Option TokenBucket} (simulates : Simulates limiter ip now bucket)
    (sameRate : other.rateRps = limiter.rateRps)
    (sameEntry : other.buckets.lookup ip = limiter.buckets.lookup ip) :
    Simulates other ip now bucket := by
  cases bucket with
  | none => exact sameEntry.trans simulates
  | some bucket =>
      simp only [Simulates, sameRate, sameEntry]
      exact simulates

/-- A sweep keeps the rate. -/
theorem evictStale_rateRps (origin : ℚ) (limiter : RateLimiter) (now : ℚ) :
    (limiter.evictStale origin now).rateRps = limiter.rateRps := by
  unfold RateLimiter.evictStale
  split <;> rfl

/-- A sweep drops a bucket only when it is stale. -/
theorem evictStale_lookup (origin : ℚ) (limiter : RateLimiter) (now : ℚ) (ip : IpAddr) :
    (limiter.evictStale origin now).buckets.lookup ip = limiter.buckets.lookup ip ∨
      ∃ entry, limiter.buckets.lookup ip = some entry ∧
        (limiter.evictStale origin now).buckets.lookup ip = none ∧
        entry.2.lastRefill + staleBucketTtl < now := by
  unfold RateLimiter.evictStale checkedSub
  split
  · exact .inl rfl
  · rename_i cutoff representable
    obtain ⟨_, same⟩ := Option.ite_none_right_eq_some.mp representable
    obtain rfl := Option.some.inj same
    simp only [Table.lookup_keep]
    cases found : limiter.buckets.lookup ip with
    | none => exact .inl rfl
    | some entry =>
        by_cases fresh : now - staleBucketTtl ≤ entry.2.lastRefill
        · left
          simp [Option.filter, fresh]
        · right
          refine ⟨entry, rfl, by simp [Option.filter, fresh], ?_⟩
          linarith [not_le.mp fresh]

/-- Every sweep preserves the simulation. -/
theorem Simulates.evictStale {limiter : RateLimiter} {ip : IpAddr} {now : ℚ}
    {bucket : Option TokenBucket} (origin : ℚ) (simulates : Simulates limiter ip now bucket) :
    Simulates (limiter.evictStale origin now) ip now bucket := by
  have sameRate := evictStale_rateRps origin limiter now
  rcases evictStale_lookup origin limiter now ip with same | ⟨entry, found, dropped, stale⟩
  · exact simulates.congr sameRate same
  · cases bucket with
    | none => exact absurd (found.symm.trans simulates) (by simp)
    | some bucket =>
        obtain ⟨wellFormed, before, stored | ⟨missing, _⟩⟩ := simulates
        · rw [stored] at found
          obtain rfl := Option.some.inj found
          exact ⟨sameRate ▸ wellFormed, before, .inr ⟨dropped, stale⟩⟩
        · rw [missing] at found
          exact absurd found (by simp)

/-- Counting a call preserves the simulation, with or without its sweep. -/
theorem Simulates.countCheck {limiter : RateLimiter} {ip : IpAddr} {now : ℚ}
    {bucket : Option TokenBucket} (origin : ℚ) (simulates : Simulates limiter ip now bucket) :
    Simulates (limiter.countCheck origin now) ip now bucket := by
  unfold RateLimiter.countCheck
  have counted : Simulates { limiter with checkCount := (limiter.checkCount + 1) % 2 ^ 64 } ip now
      bucket := simulates.congr rfl rfl
  dsimp only
  split
  · exact counted.evictStale origin
  · exact counted

theorem countCheck_rateRps (origin : ℚ) (limiter : RateLimiter) (now : ℚ) :
    (limiter.countCheck origin now).rateRps = limiter.rateRps := by
  unfold RateLimiter.countCheck
  dsimp only
  split
  · exact evictStale_rateRps origin _ now
  · rfl

/-- A check keeps the rate. -/
theorem check_rateRps (origin : ℚ) (limiter : RateLimiter) (ip : IpAddr) (now : ℚ) :
    (limiter.check origin ip now).2.rateRps = limiter.rateRps :=
  countCheck_rateRps origin limiter now

/-- The bucket of the address refills to a token, after the sweep that the check may start. -/
def RateLimiter.HasToken (origin : ℚ) (limiter : RateLimiter) (ip : IpAddr) (now : ℚ) : Prop :=
  let bucket := (limiter.countCheck origin now).entry ip now
  1 ≤ min (bucket.tokens + durationSince now bucket.lastRefill * bucket.rate) bucket.capacity

/-- A check is admitted exactly when the address has a token. -/
theorem check_eq_true_iff (origin : ℚ) (limiter : RateLimiter) (ip : IpAddr) (now : ℚ) :
    (limiter.check origin ip now).1 = true ↔ limiter.HasToken origin ip now := by
  simp only [RateLimiter.check, TokenBucket.tryConsume, RateLimiter.HasToken]
  split
  · rename_i token
    exact iff_of_true rfl token
  · rename_i token
    exact iff_of_false Bool.false_ne_true token

/-- The shared entry answers like the private bucket. -/
theorem Simulates.tryConsume {limiter : RateLimiter} {ip : IpAddr} {now : ℚ}
    {bucket : Option TokenBucket} (simulates : Simulates limiter ip now bucket) :
    (limiter.entry ip now).tryConsume now =
      (bucket.getD (TokenBucket.new limiter.rateRps now)).tryConsume now := by
  unfold RateLimiter.entry
  cases bucket with
  | none =>
      have missing : limiter.buckets.lookup ip = none := simulates
      rw [missing]
      rfl
  | some bucket =>
      obtain ⟨wellFormed, _, stored | ⟨missing, stale⟩⟩ := simulates
      · rw [stored]
        rfl
      · rw [missing]
        exact (TokenBucket.tryConsume_of_stale wellFormed stale).symm

/-- The private bucket, or the new one in its place, is well formed. -/
theorem Simulates.wellFormed_getD {limiter : RateLimiter} {ip : IpAddr} {now : ℚ}
    {bucket : Option TokenBucket} (simulates : Simulates limiter ip now bucket) :
    (bucket.getD (TokenBucket.new limiter.rateRps now)).WellFormed limiter.rateRps ∧
      (bucket.getD (TokenBucket.new limiter.rateRps now)).lastRefill ≤ now := by
  cases bucket with
  | none => exact ⟨TokenBucket.new_wellFormed _ _, le_rfl⟩
  | some bucket => exact ⟨simulates.1, simulates.2.1⟩

/-- A check of the address itself gives the private answer and the private bucket. -/
theorem Simulates.check_self {limiter : RateLimiter} {ip : IpAddr} {now : ℚ}
    {bucket : Option TokenBucket} (origin : ℚ) (simulates : Simulates limiter ip now bucket) :
    let result := (bucket.getD (TokenBucket.new limiter.rateRps now)).tryConsume now
    (limiter.check origin ip now).1 = result.1 ∧
      Simulates (limiter.check origin ip now).2 ip now (some result.2) := by
  have counted := simulates.countCheck origin
  have sameRate := countCheck_rateRps origin limiter now
  have answer := counted.tryConsume
  have facts := simulates.wellFormed_getD
  rw [sameRate] at answer
  simp only [RateLimiter.check, answer]
  refine ⟨trivial, ?_, (TokenBucket.tryConsume_lastRefill _ _).le, .inl (Table.lookup_put_self _ _)⟩
  rw [sameRate]
  exact TokenBucket.tryConsume_wellFormed facts.1 facts.2

/-- A check of another address leaves the private bucket alone. -/
theorem Simulates.check_other {limiter : RateLimiter} {ip other : IpAddr} {now : ℚ}
    {bucket : Option TokenBucket} (origin : ℚ) (simulates : Simulates limiter ip now bucket)
    (different : other ≠ ip) : Simulates (limiter.check origin other now).2 ip now bucket := by
  apply (simulates.countCheck origin).congr
  · rfl
  · exact Table.lookup_put_of_ne _ _ (Ne.symm different)

/-- From simulating states, the run answers an address like its private bucket. -/
theorem log_filter_eq_private (origin : ℚ) (ip : IpAddr) (events : List Event)
    (limiter : RateLimiter) (now : ℚ) (bucket : Option TokenBucket)
    (simulates : Simulates limiter ip now bucket)
    (ordered : (now :: events.map Event.time).Pairwise (· ≤ ·)) :
    ((limiter.log origin events).filter (·.ip = ip)).map
        (fun answer => (answer.time, answer.allowed)) =
      (checkTimes ip events).zip
        (privateAnswers limiter.rateRps bucket (checkTimes ip events)) := by
  induction events generalizing limiter now bucket with
  | nil => rfl
  | cons event rest ih =>
      have reached : now ≤ event.time := List.rel_of_pairwise_cons ordered (by simp)
      have orderedRest : (event.time :: rest.map Event.time).Pairwise (· ≤ ·) := ordered.of_cons
      have current := simulates.later reached
      cases event with
      | sweep time =>
          have tail := ih _ time bucket (current.evictStale origin) orderedRest
          rw [evictStale_rateRps] at tail
          exact tail
      | check other time =>
          simp only [Event.time] at current orderedRest
          by_cases same : other = ip
          · subst same
            have step := current.check_self origin
            have tail := ih _ time _ step.2 orderedRest
            rw [check_rateRps] at tail
            simp only [RateLimiter.log, checkTimes, List.filterMap_cons, if_true, decide_true,
              List.filter_cons_of_pos, List.map_cons, privateAnswers, List.zip_cons_cons, step.1]
            exact congrArg (_ :: ·) tail
          · have tail := ih _ time bucket (current.check_other origin same) orderedRest
            rw [check_rateRps] at tail
            simp only [RateLimiter.log, checkTimes, List.filterMap_cons, same, if_false, decide_false,
              Bool.false_eq_true, not_false_eq_true, List.filter_cons_of_neg]
            exact tail

/-- A sorted list may repeat its first time. -/
theorem pairwise_repeat_head {first : ℚ} {rest : List ℚ} (ordered : (first :: rest).Pairwise (· ≤ ·)) :
    (first :: first :: rest).Pairwise (· ≤ ·) := by
  refine List.pairwise_cons.mpr ⟨fun time member => ?_, ordered⟩
  rcases List.mem_cons.mp member with rfl | later
  · exact le_rfl
  · exact List.rel_of_pairwise_cons ordered later

/-- A sorted list of times has a start. -/
theorem exists_start {times : List ℚ} (ordered : times.Pairwise (· ≤ ·)) :
    ∃ start, (start :: times).Pairwise (· ≤ ·) := by
  cases times with
  | nil => exact ⟨0, List.pairwise_singleton _ _⟩
  | cons first rest => exact ⟨first, pairwise_repeat_head ordered⟩

/-- Eviction and other clients are unobservable: every answer is the private bucket's answer. -/
theorem check_refines_private (origin : ℚ) (rateRps : Nat) (events : List Event)
    (ordered : (events.map Event.time).Pairwise (· ≤ ·)) (ip : IpAddr) :
    (((RateLimiter.new rateRps).log origin events).filter (·.ip = ip)).map
        (fun answer => (answer.time, answer.allowed)) =
      (checkTimes ip events).zip (privateAnswers rateRps none (checkTimes ip events)) := by
  obtain ⟨start, started⟩ := exists_start ordered
  exact log_filter_eq_private origin ip events (RateLimiter.new rateRps) start none
    (Table.lookup_empty ip) started

/-- A client whose full bucket was swept after 400 idle seconds sees its private answers. -/
theorem check_refines_private_swept :
    let client := IpAddr.v4 1
    let events := [Event.check client 0, .check client 0, .check (.v4 2) 1, .sweep 400, .check client 400]
    (((RateLimiter.new 1).log 0 events).filter (·.ip = client)).map
        (fun answer => (answer.time, answer.allowed)) =
      (checkTimes client events).zip (privateAnswers 1 none (checkTimes client events)) ∧
    ((RateLimiter.new 1).log 0 events).map Answer.allowed = [true, false, true, true] :=
  ⟨check_refines_private 0 1 _ (by decide) _, by decide +kernel⟩

/-- A private bucket gives the answers of the abstract bucket. -/
theorem privateAnswers_eq_draws {rateRps : Nat} {bucket : TokenBucket}
    (wellFormed : bucket.WellFormed rateRps) (times : List ℚ)
    (ordered : (bucket.lastRefill :: times).Pairwise (· ≤ ·)) :
    privateAnswers rateRps (some bucket) times =
      Bucket.draws (rateRps : ℚ) rateRps bucket.level times := by
  induction times generalizing bucket with
  | nil => rfl
  | cons now rest ih =>
      have later : bucket.lastRefill ≤ now := List.rel_of_pairwise_cons ordered List.mem_cons_self
      obtain ⟨answer, level⟩ := TokenBucket.tryConsume_eq_draw wellFormed later
      have tail := ih (TokenBucket.tryConsume_wellFormed wellFormed later)
        (by rw [TokenBucket.tryConsume_lastRefill]; exact ordered.of_cons)
      simp only [privateAnswers, Bucket.draws, Option.getD_some, answer, tail, level]

/-- The first check starts the abstract bucket full. -/
theorem privateAnswers_none (rateRps : Nat) (now : ℚ) (rest : List ℚ) :
    privateAnswers rateRps none (now :: rest) =
      privateAnswers rateRps (some (TokenBucket.new rateRps now)) (now :: rest) := rfl

/-- The checks of one address are in the order of time. -/
theorem checkTimes_pairwise {events : List Event} (ip : IpAddr)
    (ordered : (events.map Event.time).Pairwise (· ≤ ·)) :
    (checkTimes ip events).Pairwise (· ≤ ·) := by
  refine ordered.sublist ?_
  induction events with
  | nil => exact List.Sublist.refl _
  | cons event rest ih =>
      have tail := ih ordered.of_cons
      cases event with
      | sweep now => exact tail.cons _
      | check other now =>
          simp only [checkTimes, List.filterMap_cons, List.map_cons, Event.time]
          split
          · exact tail.cons _
          · rename_i time same
            obtain ⟨_, same⟩ := Option.ite_none_right_eq_some.mp same
            obtain rfl := Option.some.inj same
            exact tail.cons_cons _

/-- The grants of one address are the grants of its private bucket. -/
theorem log_countP_eq_granted (origin : ℚ) (rateRps : Nat) (events : List Event)
    (ordered : (events.map Event.time).Pairwise (· ≤ ·)) (ip : IpAddr) (first last : ℚ) :
    (((RateLimiter.new rateRps).log origin events).countP fun answer =>
        answer.ip = ip ∧ answer.allowed ∧ first ≤ answer.time ∧ answer.time ≤ last) =
      Bucket.granted first last (checkTimes ip events)
        (privateAnswers rateRps none (checkTimes ip events)) := by
  obtain ⟨start, started⟩ := exists_start ordered
  have answers := log_filter_eq_private origin ip events (RateLimiter.new rateRps) start none
    (Table.lookup_empty ip) started
  rw [show (RateLimiter.new rateRps).rateRps = rateRps from rfl] at answers
  rw [Bucket.granted, ← answers, List.countP_map, List.countP_filter]
  apply List.countP_congr
  intro answer _
  simp [and_comm]

/-- Every window grants one address at most its burst and the refill over the window. -/
theorem allowed_le_window (origin : ℚ) (rateRps : Nat) (events : List Event)
    (ordered : (events.map Event.time).Pairwise (· ≤ ·)) (ip : IpAddr) (first last : ℚ)
    (window : first ≤ last) :
    ((((RateLimiter.new rateRps).log origin events).countP fun answer =>
        answer.ip = ip ∧ answer.allowed ∧ first ≤ answer.time ∧ answer.time ≤ last : Nat) : ℚ) ≤
      rateRps + rateRps * (last - first) := by
  have rateNonneg : (0 : ℚ) ≤ rateRps := Nat.cast_nonneg rateRps
  rw [log_countP_eq_granted origin rateRps events ordered ip first last]
  have sorted := checkTimes_pairwise ip ordered
  cases times : checkTimes ip events with
  | nil =>
      have grown := mul_nonneg rateNonneg (sub_nonneg.mpr window)
      simpa [Bucket.granted] using add_nonneg rateNonneg grown
  | cons now rest =>
      rw [times] at sorted
      have started := pairwise_repeat_head sorted
      rw [privateAnswers_none, privateAnswers_eq_draws (TokenBucket.new_wellFormed rateRps now) _ started]
      exact Bucket.granted_le_window rateNonneg rateNonneg first last window _ _ started rateNonneg

/-- Three back-to-back checks at two requests per second grant two. -/
theorem allowed_le_window_burst :
    let client := IpAddr.v4 1
    let events := [Event.check client 0, .check client 0, .check client 0]
    ((((RateLimiter.new 2).log 0 events).countP fun answer =>
        answer.ip = client ∧ answer.allowed ∧ 0 ≤ answer.time ∧ answer.time ≤ 0 : Nat) : ℚ) ≤
      (2 : Nat) + (2 : Nat) * (0 - 0) :=
  allowed_le_window 0 2 _ (by decide) _ 0 0 le_rfl

end HighperfServer.Middleware
