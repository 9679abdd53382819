import HighperfServer.Construction.Middleware.SharedLimiter
import HighperfServer.Library.Progress
import HighperfServer.Library.Sync
import HighperfServer.Proof.Middleware.RateLimiter

namespace HighperfServer.Middleware
open Library

/-- Every stored bucket has the limiter's rate and was refilled in the past. -/
def RateLimiter.Sound (limiter : RateLimiter) (now : ℚ) : Prop :=
  ∀ ip entry, limiter.buckets.lookup ip = some entry →
    entry.2.WellFormed limiter.rateRps ∧ entry.2.lastRefill ≤ now

/-- From now on two limiters give every address the same answers. -/
structure Equivalent (now : ℚ) (first second : RateLimiter) : Prop where
  sameRate : first.rateRps = second.rateRps
  sameConsumption : ∀ ip later, now ≤ later →
    (first.entry ip later).tryConsume later = (second.entry ip later).tryConsume later

theorem Equivalent.refl (now : ℚ) (limiter : RateLimiter) : Equivalent now limiter limiter :=
  ⟨rfl, fun _ _ _ => rfl⟩

theorem Equivalent.symm {now : ℚ} {first second : RateLimiter}
    (equivalent : Equivalent now first second) : Equivalent now second first :=
  ⟨equivalent.sameRate.symm, fun ip later reached =>
    (equivalent.sameConsumption ip later reached).symm⟩

theorem Equivalent.trans {now : ℚ} {first second third : RateLimiter}
    (left : Equivalent now first second) (right : Equivalent now second third) :
    Equivalent now first third :=
  ⟨left.sameRate.trans right.sameRate, fun ip later reached =>
    (left.sameConsumption ip later reached).trans (right.sameConsumption ip later reached)⟩

/-- Limiters that agree now agree later. -/
theorem Equivalent.later {now next : ℚ} {first second : RateLimiter}
    (equivalent : Equivalent now first second) (ordered : now ≤ next) :
    Equivalent next first second :=
  ⟨equivalent.sameRate, fun ip later reached =>
    equivalent.sameConsumption ip later (ordered.trans reached)⟩

theorem entry_of_lookup {limiter : RateLimiter} {ip : IpAddr} {now : ℚ}
    {entry : IpAddr × TokenBucket} (found : limiter.buckets.lookup ip = some entry) :
    limiter.entry ip now = entry.2 := by
  simp only [RateLimiter.entry, found]

theorem entry_of_missing {limiter : RateLimiter} {ip : IpAddr} {now : ℚ}
    (missing : limiter.buckets.lookup ip = none) :
    limiter.entry ip now = TokenBucket.new limiter.rateRps now := by
  simp only [RateLimiter.entry, missing]

/-- A bucket that is put is the entry of its address. -/
theorem entry_put_self (limiter : RateLimiter) (ip : IpAddr) (bucket : TokenBucket) (now : ℚ) :
    ({ limiter with buckets := limiter.buckets.put (ip, bucket) } : RateLimiter).entry ip now =
      bucket := by
  have stored : (limiter.buckets.put (ip, bucket)).lookup ip = some (ip, bucket) :=
    Table.lookup_put_self _ _
  rw [entry_of_lookup stored]

/-- Putting a bucket leaves the entries of the other addresses. -/
theorem entry_put_of_ne (limiter : RateLimiter) {ip other : IpAddr} (different : other ≠ ip)
    (bucket : TokenBucket) (now : ℚ) :
    ({ limiter with buckets := limiter.buckets.put (ip, bucket) } : RateLimiter).entry other now =
      limiter.entry other now := by
  simp only [RateLimiter.entry]
  rw [show (limiter.buckets.put (ip, bucket)).lookup other = limiter.buckets.lookup other from
    Table.lookup_put_of_ne _ _ different]

/-- A full bucket stays full, whenever it was created. -/
theorem TokenBucket.tryConsume_new {rateRps : Nat} {created now : ℚ} (later : created ≤ now) :
    (TokenBucket.new rateRps created).tryConsume now =
      (TokenBucket.new rateRps now).tryConsume now := by
  have rateNonneg : (0 : ℚ) ≤ rateRps := Nat.cast_nonneg rateRps
  have full : ∀ start, start ≤ now →
      min ((rateRps : ℚ) + durationSince now start * rateRps) rateRps = rateRps := by
    intro start before
    rw [durationSince_of_le before]
    apply min_eq_right
    have grown := mul_nonneg (sub_nonneg.mpr before) rateNonneg
    linarith
  simp only [tryConsume, TokenBucket.new, full created later, full now le_rfl]

/-- A sound limiter stays sound as time passes. -/
theorem RateLimiter.Sound.later {limiter : RateLimiter} {now next : ℚ} (sound : limiter.Sound now)
    (ordered : now ≤ next) : limiter.Sound next := by
  intro ip entry found
  obtain ⟨wellFormed, before⟩ := sound ip entry found
  exact ⟨wellFormed, before.trans ordered⟩

/-- A sweep keeps the limiter sound. -/
theorem RateLimiter.Sound.keep {limiter : RateLimiter} {now : ℚ} (sound : limiter.Sound now)
    (selected : IpAddr × TokenBucket → Bool) :
    ({ limiter with buckets := limiter.buckets.keep selected } : RateLimiter).Sound now := by
  intro ip entry found
  rw [Table.lookup_keep] at found
  exact sound ip entry (Option.filter_eq_some_iff.mp found).1

/-- Putting a well-formed bucket keeps the limiter sound. -/
theorem RateLimiter.Sound.put {limiter : RateLimiter} {now : ℚ} (sound : limiter.Sound now)
    (ip : IpAddr) {bucket : TokenBucket} (wellFormed : bucket.WellFormed limiter.rateRps)
    (before : bucket.lastRefill ≤ now) :
    ({ limiter with buckets := limiter.buckets.put (ip, bucket) } : RateLimiter).Sound now := by
  intro other entry found
  by_cases same : other = ip
  · subst same
    rw [show (limiter.buckets.put (other, bucket)).lookup other = some (other, bucket) from
      Table.lookup_put_self _ _] at found
    obtain rfl := Option.some.inj found
    exact ⟨wellFormed, before⟩
  · rw [show (limiter.buckets.put (ip, bucket)).lookup other = limiter.buckets.lookup other from
      Table.lookup_put_of_ne _ _ same] at found
    exact sound other entry found

/-- The stored or new bucket of an address is well formed. -/
theorem RateLimiter.Sound.entry {limiter : RateLimiter} {now : ℚ} (sound : limiter.Sound now)
    (ip : IpAddr) : (limiter.entry ip now).WellFormed limiter.rateRps ∧
      (limiter.entry ip now).lastRefill ≤ now := by
  cases found : limiter.buckets.lookup ip with
  | none =>
      rw [entry_of_missing found]
      exact ⟨TokenBucket.new_wellFormed _ _, le_rfl⟩
  | some entry =>
      rw [entry_of_lookup found]
      exact sound ip entry found

/-- Dropping stale buckets changes no later answer. -/
theorem RateLimiter.Sound.keep_equivalent {limiter : RateLimiter} {now : ℚ}
    (sound : limiter.Sound now) {selected : IpAddr × TokenBucket → Bool}
    (stale : ∀ entry, selected entry = false → entry.2.lastRefill + staleBucketTtl < now) :
    Equivalent now { limiter with buckets := limiter.buckets.keep selected } limiter := by
  refine ⟨rfl, ?_⟩
  intro ip later reached
  cases found : limiter.buckets.lookup ip with
  | none =>
      have missing : (limiter.buckets.keep selected).lookup ip = none := by
        rw [Table.lookup_keep, found]
        rfl
      rw [entry_of_missing missing, entry_of_missing found]
  | some entry =>
      cases kept : selected entry with
      | true =>
          have present : (limiter.buckets.keep selected).lookup ip = some entry := by
            rw [Table.lookup_keep, found]
            simp [Option.filter, kept]
          rw [entry_of_lookup present, entry_of_lookup found]
      | false =>
          have missing : (limiter.buckets.keep selected).lookup ip = none := by
            rw [Table.lookup_keep, found]
            simp [Option.filter, kept]
          have dropped := TokenBucket.tryConsume_of_stale (sound ip entry found).1
            ((stale entry kept).trans_le reached)
          rw [entry_of_missing missing, entry_of_lookup found]
          exact dropped.symm

/-- Filing a full bucket for a new address changes no later answer. -/
theorem equivalent_fresh {limiter : RateLimiter} {ip : IpAddr} (now : ℚ)
    (missing : limiter.buckets.lookup ip = none) :
    Equivalent now
      { limiter with buckets := limiter.buckets.put (ip, TokenBucket.new limiter.rateRps now) }
      limiter := by
  refine ⟨rfl, ?_⟩
  intro other later reached
  by_cases same : other = ip
  · subst same
    rw [entry_put_self, entry_of_missing missing]
    exact TokenBucket.tryConsume_new reached
  · rw [entry_put_of_ne limiter same]

/-- Storing the same bucket on both sides keeps the limiters equivalent. -/
theorem Equivalent.put {now : ℚ} {first second : RateLimiter}
    (equivalent : Equivalent now first second) (ip : IpAddr) (bucket : TokenBucket) :
    Equivalent now { first with buckets := first.buckets.put (ip, bucket) }
      { second with buckets := second.buckets.put (ip, bucket) } := by
  refine ⟨equivalent.sameRate, ?_⟩
  intro other later reached
  by_cases same : other = ip
  · subst same
    rw [entry_put_self, entry_put_self]
  · rw [entry_put_of_ne first same, entry_put_of_ne second same]
    exact equivalent.sameConsumption other later reached

/-- A sweep with a cutoff from the past changes no later answer. -/
theorem RateLimiter.Sound.evictStale {limiter : RateLimiter} {now : ℚ} (sound : limiter.Sound now)
    (origin : ℚ) : (limiter.evictStale origin now).Sound now ∧
      Equivalent now (limiter.evictStale origin now) limiter := by
  unfold RateLimiter.evictStale checkedSub
  split
  · exact ⟨sound, Equivalent.refl now limiter⟩
  · rename_i cutoff representable
    obtain ⟨_, same⟩ := Option.ite_none_right_eq_some.mp representable
    obtain rfl := Option.some.inj same
    refine ⟨sound.keep _, sound.keep_equivalent ?_⟩
    intro entry dropped
    have old := not_le.mp (of_decide_eq_false dropped)
    linarith

/-- Counting a check, with the sweep that it may run, changes no later answer. -/
theorem RateLimiter.Sound.countCheck {limiter : RateLimiter} {now : ℚ} (sound : limiter.Sound now)
    (origin : ℚ) : (limiter.countCheck origin now).Sound now ∧
      Equivalent now (limiter.countCheck origin now) limiter := by
  have counted : ({ limiter with checkCount := (limiter.checkCount + 1) % 2 ^ 64 } :
      RateLimiter).Sound now := sound
  have same : Equivalent now { limiter with checkCount := (limiter.checkCount + 1) % 2 ^ 64 }
      limiter := ⟨rfl, fun _ _ _ => rfl⟩
  unfold RateLimiter.countCheck
  dsimp only
  split
  · have swept := counted.evictStale origin
    exact ⟨swept.1, swept.2.trans same⟩
  · exact ⟨counted, same⟩

/-- The consumed bucket is stored again with the present as its last refill. -/
theorem RateLimiter.Sound.consume {limiter : RateLimiter} {now : ℚ} (sound : limiter.Sound now)
    (ip : IpAddr) :
    ({ limiter with buckets :=
        limiter.buckets.put (ip, ((limiter.entry ip now).tryConsume now).2) } :
      RateLimiter).Sound now := by
  obtain ⟨wellFormed, before⟩ := sound.entry ip
  exact sound.put ip (TokenBucket.tryConsume_wellFormed wellFormed before)
    (TokenBucket.tryConsume_lastRefill _ _).le

/-- An equivalent limiter answers a check alike and stays equivalent. -/
theorem Equivalent.check {now : ℚ} {shared sequential : RateLimiter}
    (equivalent : Equivalent now shared sequential) (sound : sequential.Sound now) (origin : ℚ)
    (ip : IpAddr) :
    (sequential.check origin ip now).1 = ((shared.entry ip now).tryConsume now).1 ∧
      Equivalent now
        { shared with buckets := shared.buckets.put (ip, ((shared.entry ip now).tryConsume now).2) }
        (sequential.check origin ip now).2 ∧
      (sequential.check origin ip now).2.Sound now := by
  obtain ⟨countedSound, counted⟩ := sound.countCheck origin
  have matched := equivalent.trans counted.symm
  have same := matched.sameConsumption ip now le_rfl
  refine ⟨congrArg Prod.fst same.symm, ?_, countedSound.consume ip⟩
  rw [same]
  exact matched.put ip _

/-- A log of two stretches continues from the limiter after the first. -/
theorem log_append (origin : ℚ) (limiter : RateLimiter) (first second : List Event) :
    limiter.log origin (first ++ second) =
      limiter.log origin first ++
        (first.foldl (RateLimiter.after origin) limiter).log origin second := by
  induction first generalizing limiter with
  | nil => rfl
  | cons event rest ih =>
      cases event with
      | check ip now =>
          simp only [List.cons_append, RateLimiter.log, List.foldl_cons, ih]
      | sweep now =>
          simp only [List.cons_append, RateLimiter.log, List.foldl_cons, ih]

namespace SharedLimiter

/-- The checks in the order in which they consumed. -/
def history (shared : SharedLimiter) : List Middleware.Event :=
  shared.answers.map fun answer => .check answer.ip answer.time

/-- The sequential limiter after the same checks. -/
def sequential (origin : ℚ) (rateRps : Nat) (shared : SharedLimiter) : RateLimiter :=
  shared.history.foldl (RateLimiter.after origin) (RateLimiter.new rateRps)

/-- The cutoff that a sweep has read. -/
def cutoffOf : LimiterCall → Option ℚ
  | .waiting _ cutoff _ _ | .visiting _ cutoff _ _ => some cutoff
  | _ => none

/-- The shared limiter answers like the sequential one, and every cutoff in use is old enough. -/
structure Linear (origin : ℚ) (rateRps : Nat) (shared : SharedLimiter) : Prop where
  sound : shared.limiter.Sound shared.clock
  sequentialSound : (shared.sequential origin rateRps).Sound shared.clock
  equivalent : Equivalent shared.clock shared.limiter (shared.sequential origin rateRps)
  answered : shared.answers = (RateLimiter.new rateRps).log origin shared.history
  ordered : (shared.answers.map Answer.time).Pairwise (· ≤ ·)
  past : ∀ answer ∈ shared.answers, answer.time ≤ shared.clock
  cutoffs : ∀ call ∈ shared.calls, ∀ cutoff ∈ cutoffOf call,
    cutoff + staleBucketTtl ≤ shared.clock

variable {origin : ℚ} {shards : Shards} {rateRps : Nat} {shared next : SharedLimiter}

/-- The shared limiter starts linear. -/
theorem start_linear (origin : ℚ) (rateRps : Nat) (clock : ℚ) :
    (start rateRps clock).Linear origin rateRps where
  sound := fun ip _ found => absurd (found.symm.trans (Table.lookup_empty ip)) (by simp)
  sequentialSound := fun ip _ found => absurd (found.symm.trans (Table.lookup_empty ip)) (by simp)
  equivalent := Equivalent.refl _ _
  answered := rfl
  ordered := List.Pairwise.nil
  past := by simp [start]
  cutoffs := by simp [start]

/-- A step that keeps clock and answers needs an equivalent limiter and cutoffs from the past. -/
theorem Linear.same_answers (linear : shared.Linear origin rateRps)
    (sameClock : next.clock = shared.clock) (sameAnswers : next.answers = shared.answers)
    (sound : next.limiter.Sound shared.clock)
    (equivalent : Equivalent shared.clock next.limiter shared.limiter)
    (cutoffs : ∀ call ∈ next.calls, ∀ cutoff ∈ cutoffOf call,
      cutoff + staleBucketTtl ≤ shared.clock) : next.Linear origin rateRps := by
  have sameHistory : next.history = shared.history := by simp only [history, sameAnswers]
  have sameSequential : next.sequential origin rateRps = shared.sequential origin rateRps := by
    simp only [sequential, sameHistory]
  constructor
  · rw [sameClock]
    exact sound
  · rw [sameClock, sameSequential]
    exact linear.sequentialSound
  · rw [sameClock, sameSequential]
    exact equivalent.trans linear.equivalent
  · rw [sameAnswers, sameHistory]
    exact linear.answered
  · rw [sameAnswers]
    exact linear.ordered
  · rw [sameAnswers, sameClock]
    exact linear.past
  · rw [sameClock]
    exact cutoffs

/-- A replaced call may bring a cutoff from the past. -/
theorem Linear.cutoffs_set (linear : shared.Linear origin rateRps) (index : Nat) {call : LimiterCall}
    (old : ∀ cutoff ∈ cutoffOf call, cutoff + staleBucketTtl ≤ shared.clock) :
    ∀ other ∈ shared.calls.set index call, ∀ cutoff ∈ cutoffOf other,
      cutoff + staleBucketTtl ≤ shared.clock := by
  intro other member
  rcases List.mem_or_eq_of_mem_set member with before | same
  · exact linear.cutoffs other before
  · rw [same]
    exact old

/-- No cutoff is left after the sweep. -/
theorem cutoffOf_afterSweep (next : Option IpAddr) : cutoffOf (.afterSweep next) = none := by
  cases next <;> rfl

/-- The next pass uses the same cutoff. -/
theorem cutoffOf_afterPass {next : Option IpAddr} {cutoff other : ℚ} {pass : Pass}
    (used : other ∈ cutoffOf (.afterPass next cutoff pass)) : other = cutoff := by
  cases pass with
  | lengthBefore => exact (Option.some.inj used).symm
  | retain => exact (Option.some.inj used).symm
  | lengthAfter =>
      rw [LimiterCall.afterPass, cutoffOf_afterSweep] at used
      exact absurd used (by simp)

/-- A step that only moves its call keeps the limiter linear. -/
theorem Linear.setCall (linear : shared.Linear origin rateRps) (index : Nat) {call : LimiterCall}
    (old : ∀ cutoff ∈ cutoffOf call, cutoff + staleBucketTtl ≤ shared.clock) :
    (shared.setCall index call).Linear origin rateRps :=
  linear.same_answers rfl rfl linear.sound (Equivalent.refl _ _) (linear.cutoffs_set index old)

/-- Counting a check answers nothing. -/
theorem Linear.count (linear : shared.Linear origin rateRps) (index : Nat) (ip : IpAddr) :
    (shared.count index ip).Linear origin rateRps := by
  refine linear.same_answers rfl rfl linear.sound ⟨rfl, fun _ _ _ => rfl⟩ (linear.cutoffs_set index ?_)
  intro cutoff used
  split at used <;> simp [cutoffOf] at used

/-- A cutoff is read from the past. -/
theorem Linear.readCutoff (linear : shared.Linear origin rateRps) (index : Nat)
    (waiting : Option IpAddr) : (shared.readCutoff origin index waiting).Linear origin rateRps := by
  apply linear.setCall
  intro cutoff used
  unfold checkedSub at used
  split at used
  · rw [cutoffOf_afterSweep] at used
    exact absurd used (by simp)
  · rename_i earlier representable
    obtain ⟨_, read⟩ := Option.ite_none_right_eq_some.mp representable
    obtain rfl := Option.some.inj read
    rw [← Option.some.inj used, sub_add_cancel]

/-- A pass that waits for a lock changes no bucket. -/
theorem Linear.lockShard (linear : shared.Linear origin rateRps) {index : Nat}
    {waiting : Option IpAddr} {cutoff : ℚ} {pass : Pass} {shard : Nat}
    (present : shared.calls[index]? = some (.waiting waiting cutoff pass shard))
    (locked : shared.lockShard shards index waiting cutoff pass shard = some next) :
    next.Linear origin rateRps := by
  have old := linear.cutoffs _ (List.mem_of_getElem? present) cutoff rfl
  unfold SharedLimiter.lockShard at locked
  split at locked
  · obtain ⟨_, same⟩ := Option.ite_none_right_eq_some.mp locked
    obtain rfl := Option.some.inj same
    apply linear.setCall
    intro other used
    rwa [← Option.some.inj used]
  · obtain rfl := Option.some.inj locked
    apply linear.setCall
    intro other used
    rwa [cutoffOf_afterPass used]

/-- A visited shard loses at most stale buckets. -/
theorem Linear.leaveShard (linear : shared.Linear origin rateRps) {index : Nat}
    {waiting : Option IpAddr} {cutoff : ℚ} {pass : Pass} {shard : Nat}
    (present : shared.calls[index]? = some (.visiting waiting cutoff pass shard)) :
    (shared.leaveShard shards index waiting cutoff pass shard).Linear origin rateRps := by
  have old := linear.cutoffs _ (List.mem_of_getElem? present) cutoff rfl
  have used (other : ℚ) (same : other ∈ cutoffOf (.waiting waiting cutoff pass (shard + 1))) :
      other + staleBucketTtl ≤ shared.clock := by
    rwa [← Option.some.inj same]
  cases pass with
  | lengthBefore => exact linear.setCall index used
  | lengthAfter => exact linear.setCall index used
  | retain =>
      refine linear.same_answers rfl rfl (linear.sound.keep _) (linear.sound.keep_equivalent ?_)
        (linear.cutoffs_set index used)
      intro entry dropped
      simp only [Bool.or_eq_false_iff, decide_eq_false_iff_not, not_le] at dropped
      have before := dropped.2
      linarith

/-- A filed bucket is full, so it changes no answer. -/
theorem Linear.enterShard (linear : shared.Linear origin rateRps) {index : Nat} {ip : IpAddr}
    (entered : shared.enterShard shards index ip = some next) : next.Linear origin rateRps := by
  obtain ⟨_, same⟩ := Option.ite_none_right_eq_some.mp entered
  obtain rfl := Option.some.inj same
  have cutoffs := @Linear.cutoffs_set _ _ _ linear index (.holding ip) (by simp [cutoffOf])
  cases found : shared.limiter.buckets.lookup ip with
  | some entry => exact linear.same_answers rfl rfl linear.sound (Equivalent.refl _ _) cutoffs
  | none =>
      exact linear.same_answers rfl rfl
        (linear.sound.put ip (TokenBucket.new_wellFormed _ _) le_rfl)
        (equivalent_fresh shared.clock found) cutoffs

/-- A step that answers one check is the check of the sequential limiter at that time. -/
theorem Linear.answer (linear : shared.Linear origin rateRps) {ip : IpAddr} {allowed : Bool}
    (sameClock : next.clock = shared.clock)
    (answered : next.answers = shared.answers ++ [⟨ip, shared.clock, allowed⟩])
    (same : ((shared.sequential origin rateRps).check origin ip shared.clock).1 = allowed)
    (sound : next.limiter.Sound shared.clock)
    (equivalent : Equivalent shared.clock next.limiter
      ((shared.sequential origin rateRps).check origin ip shared.clock).2)
    (cutoffs : ∀ call ∈ next.calls, ∀ cutoff ∈ cutoffOf call,
      cutoff + staleBucketTtl ≤ shared.clock) : next.Linear origin rateRps := by
  have longer : next.history = shared.history ++ [Middleware.Event.check ip shared.clock] := by
    simp only [history, answered, List.map_append, List.map_cons, List.map_nil]
  have continued : next.sequential origin rateRps =
      ((shared.sequential origin rateRps).check origin ip shared.clock).2 := by
    rw [sequential, longer, List.foldl_append]
    rfl
  have checked := linear.equivalent.check linear.sequentialSound origin ip
  constructor
  · rw [sameClock]
    exact sound
  · rw [sameClock, continued]
    exact checked.2.2
  · rw [sameClock, continued]
    exact equivalent
  · rw [longer, log_append, ← linear.answered, answered, ← same]
    rfl
  · rw [answered, List.map_append]
    refine List.pairwise_append.mpr ⟨linear.ordered, List.pairwise_singleton _ _, ?_⟩
    intro time member last present
    obtain ⟨earlier, before, rfl⟩ := List.mem_map.mp member
    rw [List.mem_singleton.mp present]
    exact linear.past earlier before
  · intro other member
    rw [answered] at member
    rw [sameClock]
    rcases List.mem_append.mp member with before | last
    · exact linear.past other before
    · rw [List.mem_singleton.mp last]
  · rw [sameClock]
    exact cutoffs

/-- The locked consumption is the point at which a check takes effect. -/
theorem Linear.consume (linear : shared.Linear origin rateRps) {index : Nat} {ip : IpAddr}
    (consumed : shared.consume index ip = some next) : next.Linear origin rateRps := by
  obtain ⟨entry, found, rfl⟩ := Option.map_eq_some_iff.mp consumed
  have stored : shared.limiter.entry ip shared.clock = entry.2 := entry_of_lookup found
  obtain ⟨same, equivalent, _⟩ := linear.equivalent.check linear.sequentialSound origin ip
  have sound := linear.sound.consume ip
  rw [stored] at same equivalent sound
  exact linear.answer rfl rfl same sound equivalent
    (linear.cutoffs_set index fun _ used => absurd used (by simp [cutoffOf]))

/-- The passing of time keeps the limiter linear. -/
theorem Linear.elapse (linear : shared.Linear origin rateRps) {duration : ℚ}
    (forward : 0 ≤ duration) :
    ({ shared with clock := shared.clock + duration } : SharedLimiter).Linear origin rateRps := by
  have reached : shared.clock ≤ shared.clock + duration := le_add_of_nonneg_right forward
  exact ⟨linear.sound.later reached, linear.sequentialSound.later reached,
    linear.equivalent.later reached, linear.answered, linear.ordered,
    fun answer member => (linear.past answer member).trans reached,
    fun call member cutoff used => (linear.cutoffs call member cutoff used).trans reached⟩

/-- A new call has read no cutoff. -/
theorem Linear.begin (linear : shared.Linear origin rateRps) {call : LimiterCall}
    (fresh : cutoffOf call = none) :
    ({ shared with calls := shared.calls ++ [call] } : SharedLimiter).Linear origin rateRps := by
  refine linear.same_answers rfl rfl linear.sound (Equivalent.refl _ _) ?_
  intro other member
  rcases List.mem_append.mp member with before | last
  · exact linear.cutoffs other before
  · rw [List.mem_singleton.mp last, fresh]
    simp

/-- Every atomic step keeps the shared limiter linear. -/
theorem Linear.step (linear : shared.Linear origin rateRps) {event : Event}
    (enabled : shared.step origin shards event = some next) : next.Linear origin rateRps := by
  cases event with
  | elapse duration =>
      obtain ⟨forward, same⟩ := Option.ite_none_right_eq_some.mp enabled
      obtain rfl := Option.some.inj same
      exact linear.elapse forward
  | check ip =>
      obtain rfl := Option.some.inj enabled
      exact linear.begin rfl
  | sweep =>
      obtain rfl := Option.some.inj enabled
      exact linear.begin rfl
  | run index =>
      obtain ⟨call, present, advanced⟩ := Option.bind_eq_some_iff.mp enabled
      cases call with
      | counting ip =>
          obtain rfl := Option.some.inj advanced
          exact linear.count index ip
      | reading waiting =>
          obtain rfl := Option.some.inj advanced
          exact linear.readCutoff index waiting
      | waiting waiting cutoff pass shard => exact linear.lockShard present advanced
      | visiting waiting cutoff pass shard =>
          obtain rfl := Option.some.inj advanced
          exact linear.leaveShard present
      | entering ip => exact linear.enterShard advanced
      | holding ip => exact linear.consume advanced
      | finished => exact absurd advanced (by simp [advance])

/-- Every reachable shared limiter is linear. -/
theorem reachable_linear {clock : ℚ}
    (reachable : (machine origin shards rateRps clock).Reachable shared) :
    shared.Linear origin rateRps :=
  (machine origin shards rateRps clock).reachable_invariant (start_linear origin rateRps clock)
    (fun _ _ _ linear enabled => linear.step enabled) reachable

/-- Concurrent checks and sweeps answer like the sequential limiter that runs the checks one after
another, without a background sweep, in the order in which they consumed. -/
theorem answers_linearisable (origin : ℚ) (shards : Shards) (rateRps : Nat) (clock : ℚ)
    (events : List Event) (final : SharedLimiter)
    (ran : (machine origin shards rateRps clock).run (start rateRps clock) events = some final) :
    final.answers = (RateLimiter.new rateRps).log origin
        (final.answers.map fun answer => .check answer.ip answer.time) ∧
      (final.answers.map Answer.time).Pairwise (· ≤ ·) := by
  have linear := reachable_linear ⟨events, ran⟩
  exact ⟨linear.answered, linear.ordered⟩

/-- A map with a single shard. -/
def oneShard : Shards := ⟨1, fun _ => 0⟩

/-- A sweep drops the client's stale bucket while two checks of the client wait for its shard. -/
theorem answers_linearisable_swept :
    let client := IpAddr.v4 1
    let events := [Event.check client, .run 0, .run 0, .run 0, .elapse 400, .sweep, .check client,
      .check client, .run 1, .run 2, .run 3, .run 1, .run 1, .run 1, .run 1, .run 1, .run 2, .run 2,
      .run 3, .run 3, .run 1]
    ∃ final, (machine 0 oneShard 1 0).run (start 1 0) events = some final ∧
      final.answers = [⟨client, 0, true⟩, ⟨client, 400, true⟩, ⟨client, 400, false⟩] ∧
      final.answers = (RateLimiter.new 1).log 0
        (final.answers.map fun answer => .check answer.ip answer.time) := by
  intro client events
  have ran : (((machine 0 oneShard 1 0).run (start 1 0) events).map fun final => final.answers) =
      some [⟨client, 0, true⟩, ⟨client, 400, true⟩, ⟨client, 400, false⟩] := by
    decide +kernel
  obtain ⟨final, reached, answers⟩ := Option.map_eq_some_iff.mp ran
  exact ⟨final, reached, answers, (answers_linearisable 0 oneShard 1 0 events final reached).1⟩

/-- The number of passes from this one on. -/
def passesLeft : Pass → Nat
  | .lengthBefore => 3
  | .retain => 2
  | .lengthAfter => 1

/-- The number of atomic steps that a call may still take.

A pass locks and leaves every shard and then ends. -/
def remaining (shards : Shards) : LimiterCall → Nat
  | .counting _ => 3 * (2 * shards.count + 1) + 4
  | .reading _ => 3 * (2 * shards.count + 1) + 3
  | .waiting _ _ pass shard =>
      (passesLeft pass - 1) * (2 * shards.count + 1) + 2 * (shards.count - shard) + 3
  | .visiting _ _ pass shard =>
      (passesLeft pass - 1) * (2 * shards.count + 1) + 2 * (shards.count - (shard + 1)) + 4
  | .entering _ => 2
  | .holding _ => 1
  | .finished => 0

/-- Each shard has at most one writer, and a held bucket is on file. -/
structure Guarded (shards : Shards) (shared : SharedLimiter) : Prop where
  exclusive : ∀ shard, shared.calls.countP (writes shards shard) ≤ 1
  onFile : ∀ ip, .holding ip ∈ shared.calls → shared.limiter.buckets.lookup ip ≠ none

/-- An available shard has no writer. -/
theorem countP_writes_of_available {shard : Nat} {write : Bool}
    (free : shared.available shards shard write = true) :
    shared.calls.countP (writes shards shard) = 0 := by
  rw [available, Bool.and_eq_true, Bool.not_eq_true', List.any_eq_false] at free
  exact List.countP_eq_zero.mpr free.1

/-- Two different calls do not write one shard. -/
theorem Guarded.no_other_writer (guarded : shared.Guarded shards) {index shard : Nat}
    {call other : LimiterCall} (present : shared.calls[index]? = some call)
    (first : writes shards shard call = true) (member : other ∈ shared.calls)
    (different : other ≠ call) : writes shards shard other = false := by
  obtain ⟨place, found⟩ := List.mem_iff_getElem?.mp member
  have apart : index ≠ place := by
    rintro rfl
    exact different (Option.some.inj (found.symm.trans present))
  have moved := countP_set_add (writes shards shard) present .finished
  have before := guarded.exclusive shard
  have nobody : (shared.calls.set index .finished).countP (writes shards shard) = 0 := by
    rw [first, if_pos rfl, if_neg (by simp [writes])] at moved
    omega
  have kept : other ∈ shared.calls.set index .finished := by
    refine List.mem_iff_getElem?.mpr ⟨place, ?_⟩
    rw [List.getElem?_set_ne apart, found]
  exact Bool.not_eq_true _ ▸ List.countP_eq_zero.mp nobody other kept

/-- A call that takes no write lock leaves the others guarded while their buckets stay on file. -/
theorem Guarded.replace (guarded : shared.Guarded shards) {index : Nat} {call later : LimiterCall}
    (present : shared.calls[index]? = some call)
    (replaced : next.calls = shared.calls.set index later)
    (free : ∀ shard, writes shards shard later = false)
    (kept : ∀ ip, .holding ip ∈ shared.calls → shared.limiter.buckets.lookup ip ≠ none →
      next.limiter.buckets.lookup ip ≠ none) : next.Guarded shards where
  exclusive := by
    intro shard
    have moved := countP_set_add (writes shards shard) present later
    have before := guarded.exclusive shard
    rw [replaced]
    simp only [free shard, Bool.false_eq_true, if_false] at moved
    omega
  onFile := by
    intro ip member
    rw [replaced] at member
    rcases List.mem_or_eq_of_mem_set member with before | same
    · exact kept ip before (guarded.onFile ip before)
    · have free := free (shards.shardOf ip)
      simp [← same, writes] at free

/-- A write lock of an available shard keeps it to one writer. -/
theorem Guarded.exclusive_set (guarded : shared.Guarded shards) {index taken : Nat}
    {call later : LimiterCall} (present : shared.calls[index]? = some call)
    (free : shared.calls.countP (writes shards taken) = 0)
    (only : ∀ shard, writes shards shard later = true → shard = taken) (shard : Nat) :
    (shared.calls.set index later).countP (writes shards shard) ≤ 1 := by
  have moved := countP_set_add (writes shards shard) present later
  have before := guarded.exclusive shard
  cases writing : writes shards shard later with
  | false =>
      simp only [writing, Bool.false_eq_true, if_false] at moved
      omega
  | true =>
      obtain rfl := only shard writing
      simp only [writing, if_true] at moved
      omega

/-- Putting a bucket takes no other one off the file. -/
theorem lookup_put_ne_none (buckets : Buckets) (ip other : IpAddr) (bucket : TokenBucket)
    (filed : other = ip ∨ buckets.lookup other ≠ none) :
    (buckets.put (ip, bucket)).lookup other ≠ none := by
  by_cases same : other = ip
  · subst same
    rw [show (buckets.put (other, bucket)).lookup other = some (other, bucket) from
      Table.lookup_put_self _ _]
    simp
  · rw [show (buckets.put (ip, bucket)).lookup other = buckets.lookup other from
      Table.lookup_put_of_ne _ _ same]
    exact filed.resolve_left same

/-- A pass writes a shard only when it sweeps one that is available. -/
theorem Guarded.lockShard (guarded : shared.Guarded shards) {index : Nat}
    {waiting : Option IpAddr} {cutoff : ℚ} {pass : Pass} {shard : Nat}
    (present : shared.calls[index]? = some (.waiting waiting cutoff pass shard))
    (locked : shared.lockShard shards index waiting cutoff pass shard = some next) :
    next.Guarded shards := by
  unfold SharedLimiter.lockShard at locked
  split at locked
  · obtain ⟨free, same⟩ := Option.ite_none_right_eq_some.mp locked
    obtain rfl := Option.some.inj same
    constructor
    · refine guarded.exclusive_set present (countP_writes_of_available free) ?_
      intro other writing
      cases pass <;> simp [writes] at writing
      exact writing.symm
    · intro ip member
      rcases List.mem_or_eq_of_mem_set member with before | same
      · exact guarded.onFile ip before
      · exact absurd same (by simp)
  · obtain rfl := Option.some.inj locked
    refine guarded.replace present rfl ?_ fun _ _ filed => filed
    intro other
    cases pass with
    | lengthBefore => rfl
    | retain => rfl
    | lengthAfter => cases waiting <;> rfl

/-- A swept shard has no held bucket. -/
theorem Guarded.leaveShard (guarded : shared.Guarded shards) {index : Nat}
    {waiting : Option IpAddr} {cutoff : ℚ} {pass : Pass} {shard : Nat}
    (present : shared.calls[index]? = some (.visiting waiting cutoff pass shard)) :
    (shared.leaveShard shards index waiting cutoff pass shard).Guarded shards := by
  cases pass with
  | lengthBefore => exact guarded.replace present rfl (fun _ => rfl) fun _ _ filed => filed
  | lengthAfter => exact guarded.replace present rfl (fun _ => rfl) fun _ _ filed => filed
  | retain =>
      refine guarded.replace present rfl (fun _ => rfl) ?_
      intro ip holding filed
      obtain ⟨entry, found⟩ := Option.ne_none_iff_exists'.mp filed
      have named : entry.1 = ip := Table.key_of_lookup found
      have elsewhere : writes shards shard (.holding ip) = false :=
        guarded.no_other_writer present (by simp [writes]) holding (by simp)
      simp only [writes, decide_eq_false_iff_not] at elsewhere
      dsimp only [SharedLimiter.leaveShard]
      rw [Table.lookup_keep, found]
      simp [Option.filter, named, elsewhere]

/-- An available shard gets one writer, whose bucket is filed. -/
theorem Guarded.enterShard (guarded : shared.Guarded shards) {index : Nat} {ip : IpAddr}
    (present : shared.calls[index]? = some (.entering ip))
    (entered : shared.enterShard shards index ip = some next) : next.Guarded shards := by
  obtain ⟨free, same⟩ := Option.ite_none_right_eq_some.mp entered
  obtain rfl := Option.some.inj same
  constructor
  · refine guarded.exclusive_set present (countP_writes_of_available free) ?_
    intro shard writing
    simp only [writes, decide_eq_true_eq] at writing
    exact writing.symm
  · intro other member
    dsimp only
    have filed : other = ip ∨ shared.limiter.buckets.lookup other ≠ none := by
      rcases List.mem_or_eq_of_mem_set member with before | same
      · exact .inr (guarded.onFile other before)
      · exact .inl (LimiterCall.holding.inj same)
    cases found : shared.limiter.buckets.lookup ip with
    | none => exact lookup_put_ne_none _ _ _ _ filed
    | some entry =>
        rcases filed with rfl | filed
        · simp [found]
        · exact filed

/-- Every atomic step keeps the locks and the held buckets. -/
theorem Guarded.step (guarded : shared.Guarded shards) {event : Event}
    (enabled : shared.step origin shards event = some next) : next.Guarded shards := by
  cases event with
  | elapse duration =>
      obtain ⟨_, same⟩ := Option.ite_none_right_eq_some.mp enabled
      obtain rfl := Option.some.inj same
      exact ⟨guarded.exclusive, guarded.onFile⟩
  | check ip =>
      obtain rfl := Option.some.inj enabled
      exact ⟨by simpa [writes] using guarded.exclusive, by simpa using guarded.onFile⟩
  | sweep =>
      obtain rfl := Option.some.inj enabled
      exact ⟨by simpa [writes] using guarded.exclusive, by simpa using guarded.onFile⟩
  | run index =>
      obtain ⟨call, present, advanced⟩ := Option.bind_eq_some_iff.mp enabled
      cases call with
      | counting ip =>
          obtain rfl := Option.some.inj advanced
          refine guarded.replace present rfl ?_ fun _ _ filed => filed
          intro shard
          split <;> rfl
      | reading waiting =>
          obtain rfl := Option.some.inj advanced
          refine guarded.replace present rfl ?_ fun _ _ filed => filed
          intro shard
          split
          · cases waiting <;> rfl
          · rfl
      | waiting waiting cutoff pass shard => exact guarded.lockShard present advanced
      | visiting waiting cutoff pass shard =>
          obtain rfl := Option.some.inj advanced
          exact guarded.leaveShard present
      | entering ip => exact guarded.enterShard present advanced
      | holding ip =>
          obtain ⟨entry, found, rfl⟩ := Option.map_eq_some_iff.mp advanced
          refine guarded.replace present rfl (fun _ => rfl) ?_
          intro other _ filed
          exact lookup_put_ne_none _ _ _ _ (.inr filed)
      | finished => exact absurd advanced (by simp [advance])

end SharedLimiter

end HighperfServer.Middleware
