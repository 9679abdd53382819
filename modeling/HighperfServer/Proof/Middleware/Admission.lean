import HighperfServer.Proof.Middleware.RateLimiter

namespace HighperfServer.Middleware
open Library

/-- The answers that one address got, with their times. -/
def answersOf (ip : IpAddr) (log : List Answer) : List (ℚ × Bool) :=
  (log.filter (·.ip = ip)).map fun answer => (answer.time, answer.allowed)

/-- The bucket that the shared map holds for the address. -/
def RateLimiter.stored (limiter : RateLimiter) (ip : IpAddr) : Option TokenBucket :=
  (limiter.buckets.lookup ip).map Prod.snd

section Stored
variable (origin : ℚ) (limiter : RateLimiter) (ip : IpAddr) (now : ℚ)

/-- A sweep keeps or drops the bucket of an address. -/
theorem evictStale_stored : (limiter.evictStale origin now).stored ip = limiter.stored ip ∨
    (limiter.evictStale origin now).stored ip = none := by
  unfold RateLimiter.stored
  rcases evictStale_lookup origin limiter now ip with same | ⟨_, _, dropped, _⟩
  · rw [same]
    exact .inl rfl
  · rw [dropped]
    exact .inr rfl

/-- Counting a check keeps the bucket of an address or sweeps it. -/
theorem countCheck_stored : (limiter.countCheck origin now).stored ip = limiter.stored ip ∨
    (limiter.countCheck origin now).stored ip = none := by
  unfold RateLimiter.countCheck
  dsimp only
  split
  · exact evictStale_stored origin { limiter with
      checkCount := (limiter.checkCount + 1) % 2 ^ 64 } ip now
  · exact .inl rfl

/-- The entry of an address is its stored bucket or a new one. -/
theorem entry_eq_stored :
    limiter.entry ip now = (limiter.stored ip).getD (TokenBucket.new limiter.rateRps now) := by
  unfold RateLimiter.entry RateLimiter.stored
  cases limiter.buckets.lookup ip <;> rfl

/-- A check of the address consumes from its bucket, which its own sweep may have dropped. -/
theorem check_self_stored : ∃ bucket, (bucket = limiter.stored ip ∨ bucket = none) ∧
    let result := (bucket.getD (TokenBucket.new limiter.rateRps now)).tryConsume now
    (limiter.check origin ip now).1 = result.1 ∧
      (limiter.check origin ip now).2.stored ip = some result.2 := by
  refine ⟨(limiter.countCheck origin now).stored ip, countCheck_stored origin limiter ip now, ?_⟩
  rw [← countCheck_rateRps origin limiter now, ← entry_eq_stored]
  dsimp only [RateLimiter.check, RateLimiter.stored]
  rw [Table.lookup_put_self]
  exact ⟨rfl, rfl⟩

/-- A check of another address keeps or drops the bucket. -/
theorem check_other_stored {other : IpAddr} (different : other ≠ ip) :
    (limiter.check origin other now).2.stored ip = limiter.stored ip ∨
      (limiter.check origin other now).2.stored ip = none := by
  have same : (limiter.check origin other now).2.stored ip =
      (limiter.countCheck origin now).stored ip := by
    dsimp only [RateLimiter.check, RateLimiter.stored]
    rw [Table.lookup_put_of_ne _ _ (Ne.symm different)]
  rw [same]
  exact countCheck_stored origin limiter ip now

end Stored

section Answers
variable (origin : ℚ) (limiter : RateLimiter) (ip : IpAddr) (now : ℚ) (rest : List Event)

theorem checkTimes_self : checkTimes ip (.check ip now :: rest) = now :: checkTimes ip rest := by
  simp only [checkTimes, List.filterMap_cons, if_true]

theorem checkTimes_other {other : IpAddr} (different : other ≠ ip) :
    checkTimes ip (.check other now :: rest) = checkTimes ip rest := by
  simp only [checkTimes, List.filterMap_cons, if_neg different]

theorem answersOf_self : answersOf ip (limiter.log origin (.check ip now :: rest)) =
    (now, (limiter.check origin ip now).1) ::
      answersOf ip ((limiter.check origin ip now).2.log origin rest) := by
  simp only [answersOf, RateLimiter.log, RateLimiter.after, decide_true, List.filter_cons_of_pos, List.map_cons]

theorem answersOf_other {other : IpAddr} (different : other ≠ ip) :
    answersOf ip (limiter.log origin (.check other now :: rest)) =
      answersOf ip ((limiter.check origin other now).2.log origin rest) := by
  simp only [answersOf, RateLimiter.log, RateLimiter.after, different, decide_false,
    Bool.false_eq_true, not_false_eq_true, List.filter_cons_of_neg]

end Answers

section History
variable (rateRps : Nat) (times : List ℚ) (held : List (ℚ × Bool) → TokenBucket → Prop)
  (judged : List (ℚ × Bool) → ℚ → Bool → Prop)

/-- A check of one address, of whatever bucket eviction has left it, keeps `held` and is `judged`. -/
def Preserves : Prop :=
  ∀ past (bucket : Option TokenBucket) now rest, past.map Prod.fst ++ now :: rest = times →
    (∀ stored ∈ bucket, held past stored) →
    let result := (bucket.getD (TokenBucket.new rateRps now)).tryConsume now
    judged past now result.1 ∧ held (past ++ [(now, result.1)]) result.2

variable {rateRps times held judged}

/-- What holds of a bucket holds of what eviction leaves of it. -/
theorem held_of_source {past : List (ℚ × Bool)} {bucket next : Option TokenBucket}
    (holds : ∀ stored ∈ bucket, held past stored) (source : next = bucket ∨ next = none) :
    ∀ stored ∈ next, held past stored := by
  rcases source with rfl | rfl
  · exact holds
  · intro stored found
    cases found

/-- A check of the address is judged by its past and adds itself to it. -/
theorem Preserves.check (preserves : Preserves rateRps times held judged) (origin : ℚ)
    {limiter : RateLimiter} (sameRate : limiter.rateRps = rateRps) {ip : IpAddr} {now : ℚ}
    {past : List (ℚ × Bool)} {rest : List ℚ} (whole : past.map Prod.fst ++ now :: rest = times)
    (start : ∀ stored ∈ limiter.stored ip, held past stored) :
    judged past now (limiter.check origin ip now).1 ∧
      ∀ stored ∈ (limiter.check origin ip now).2.stored ip,
        held (past ++ [(now, (limiter.check origin ip now).1)]) stored := by
  obtain ⟨bucket, source, answer, stored⟩ := check_self_stored origin limiter ip now
  rw [sameRate] at answer stored
  rw [answer, stored]
  obtain ⟨verdict, next⟩ := preserves past bucket now rest whole (held_of_source start source)
  refine ⟨verdict, ?_⟩
  intro found member
  obtain rfl := Option.some.inj member
  exact next

/-- What the checks of one address preserve judges every answer to that address. -/
theorem Preserves.answers (preserves : Preserves rateRps times held judged) (origin : ℚ)
    (ip : IpAddr) (events : List Event) (limiter : RateLimiter)
    (sameRate : limiter.rateRps = rateRps) (past : List (ℚ × Bool))
    (whole : past.map Prod.fst ++ checkTimes ip events = times)
    (start : ∀ stored ∈ limiter.stored ip, held past stored) (before after : List (ℚ × Bool))
    (time : ℚ) (allowed : Bool)
    (split : answersOf ip (limiter.log origin events) = before ++ (time, allowed) :: after) :
    judged (past ++ before) time allowed := by
  induction events generalizing limiter past before with
  | nil => exact absurd split (by simp [answersOf, RateLimiter.log])
  | cons event rest ih =>
      cases event with
      | sweep now =>
          have rate := (evictStale_rateRps origin limiter now).trans sameRate
          have swept := held_of_source start (evictStale_stored origin limiter ip now)
          exact ih _ rate past whole swept before split
      | check other now =>
          have rate := (check_rateRps origin limiter other now).trans sameRate
          by_cases same : other = ip
          · subst same
            rw [checkTimes_self] at whole
            rw [answersOf_self] at split
            obtain ⟨verdict, next⟩ := preserves.check origin sameRate whole start
            cases before with
            | nil =>
                obtain ⟨first, _⟩ := List.cons.inj split
                obtain ⟨rfl, rfl⟩ := Prod.mk.inj first
                rw [List.append_nil]
                exact verdict
            | cons first before =>
                obtain ⟨same, remaining⟩ := List.cons.inj split
                rw [same] at next
                have longer : (past ++ [first]).map Prod.fst ++ checkTimes other rest = times := by
                  rw [← whole, ← same]
                  simp
                have tail := ih _ rate (past ++ [first]) longer next before remaining
                rwa [List.append_assoc] at tail
          · rw [checkTimes_other ip now rest same] at whole
            rw [answersOf_other origin limiter ip now rest same] at split
            have spared := held_of_source start (check_other_stored origin limiter ip now same)
            exact ih _ rate past whole spared before split

/-- In a run of a new limiter the earlier answers to the address are the whole past. -/
theorem Preserves.log {events : List Event} {ip : IpAddr}
    (preserves : Preserves rateRps (checkTimes ip events) held judged) (origin : ℚ)
    {before after : List Answer} {answer : Answer}
    (split : (RateLimiter.new rateRps).log origin events = before ++ answer :: after)
    (own : answer.ip = ip) : judged (answersOf ip before) answer.time answer.allowed := by
  have divided : answersOf ip ((RateLimiter.new rateRps).log origin events) =
      answersOf ip before ++ (answer.time, answer.allowed) :: answersOf ip after := by
    rw [split]
    simp [answersOf, own]
  have start : ∀ stored ∈ (RateLimiter.new rateRps).stored ip, held [] stored := by
    intro stored found
    cases found
  exact preserves.answers origin ip events _ rfl [] rfl start _ _ _ _ divided

end History

/-- The bucket is well formed and was last refilled by one of the past checks. -/
def Refilled (rateRps : Nat) (past : List (ℚ × Bool)) (bucket : TokenBucket) : Prop :=
  bucket.WellFormed rateRps ∧ bucket.lastRefill ∈ past.map Prod.fst

section Refilled
variable {rateRps : Nat} {times rest : List ℚ} {past : List (ℚ × Bool)} {now : ℚ}

/-- Every check to come is later than the last refill. -/
theorem Refilled.ready {bucket : TokenBucket} (refilled : Refilled rateRps past bucket)
    (sorted : times.Pairwise (· ≤ ·)) (whole : past.map Prod.fst ++ now :: rest = times) :
    bucket.WellFormed rateRps ∧ bucket.lastRefill ≤ now := by
  obtain ⟨wellFormed, latest⟩ := refilled
  rw [← whole] at sorted
  exact ⟨wellFormed, (List.pairwise_append.mp sorted).2.2 _ latest now List.mem_cons_self⟩

/-- An attempt leaves the bucket refilled at its own time. -/
theorem refilled_tryConsume {bucket : TokenBucket} (wellFormed : bucket.WellFormed rateRps)
    (later : bucket.lastRefill ≤ now) (answer : Bool) :
    Refilled rateRps (past ++ [(now, answer)]) (bucket.tryConsume now).2 := by
  refine ⟨TokenBucket.tryConsume_wellFormed wellFormed later, ?_⟩
  rw [TokenBucket.tryConsume_lastRefill]
  simp

/-- The next check stands in the list of times right after the past ones. -/
theorem getElem?_length_past (whole : past.map Prod.fst ++ now :: rest = times) :
    times[past.length]? = some now := by
  rw [← whole, List.getElem?_append_right (by simp)]
  simp

end Refilled

/-- A new bucket is full. -/
theorem TokenBucket.new_refill (rateRps : Nat) (now : ℚ) :
    Bucket.refill (rateRps : ℚ) rateRps (TokenBucket.new rateRps now).level now = rateRps := by
  simp [Bucket.refill, TokenBucket.level, TokenBucket.new]

/-- The checks of a conforming client keep its bucket funded and pass. -/
theorem preserves_funded {rateRps : Nat} {times : List ℚ} (sorted : times.Pairwise (· ≤ ·))
    (conforming : Bucket.Conforming (rateRps : ℚ) rateRps times) :
    Preserves rateRps times
      (fun past bucket => Refilled rateRps past bucket ∧
        Bucket.Funded (rateRps : ℚ) rateRps times past.length bucket.level)
      (fun _ _ allowed => allowed = true) := by
  intro past bucket now rest whole stored
  have next := getElem?_length_past whole
  have grown (answer : Bool) : (past ++ [(now, answer)]).length = past.length + 1 := by simp
  cases bucket with
  | none =>
      have wellFormed := TokenBucket.new_wellFormed rateRps now
      have later : (TokenBucket.new rateRps now).lastRefill ≤ now := le_rfl
      have drawn := TokenBucket.tryConsume_eq_draw wellFormed later
      have granted := conforming.draw_full next (TokenBucket.new_refill rateRps now)
      rw [← drawn.1, ← drawn.2] at granted
      exact ⟨granted.1, refilled_tryConsume wellFormed later _, grown _ ▸ granted.2⟩
  | some bucket =>
      obtain ⟨refilled, funded⟩ := stored bucket rfl
      obtain ⟨wellFormed, later⟩ := refilled.ready sorted whole
      have drawn := TokenBucket.tryConsume_eq_draw wellFormed later
      have granted := funded.draw conforming next
      rw [← drawn.1, ← drawn.2] at granted
      exact ⟨granted.1, refilled_tryConsume wellFormed later _, grown _ ▸ granted.2⟩

/-- A client that keeps to the configured rate and burst passes every check. -/
theorem conforming_client_allowed (origin : ℚ) (rateRps : Nat) (events : List Event) (ip : IpAddr)
    (sorted : (checkTimes ip events).Pairwise (· ≤ ·))
    (conforming : ∀ first last start stop, first ≤ last →
      (checkTimes ip events)[first]? = some start → (checkTimes ip events)[last]? = some stop →
      ((last - first + 1 : Nat) : ℚ) ≤ rateRps + rateRps * (stop - start)) :
    ∀ answer ∈ (RateLimiter.new rateRps).log origin events, answer.ip = ip →
      answer.allowed = true := by
  intro answer member own
  obtain ⟨before, after, split⟩ := List.append_of_mem member
  exact (preserves_funded sorted conforming).log origin split own

/-- Two clients share the limiter, one keeps to a burst of two and one request every half second. -/
theorem conforming_client_allowed_paced :
    let client := IpAddr.v4 1
    let events := [Event.check client 0, .check (.v4 2) 0, .check client 0, .check client (1 / 2),
      .sweep 400, .check client 400, .check client 400]
    ∀ answer ∈ (RateLimiter.new 2).log 0 events, answer.ip = client → answer.allowed = true := by
  intro client events
  have times : checkTimes client events = [0, 0, 1 / 2, 400, 400] := by decide +kernel
  have paced : ∀ last < 5, ∀ first ≤ last, ((last - first + 1 : Nat) : ℚ) ≤
      (2 : Nat) + (2 : Nat) * ([0, 0, 1 / 2, 400, 400].getD last 0 -
        [0, 0, 1 / 2, 400, 400].getD first 0) := by decide +kernel
  refine conforming_client_allowed 0 2 events client (by rw [times]; decide +kernel) ?_
  rw [times]
  intro first last start stop ordered found reached
  have bounded : last < 5 := (List.getElem?_eq_some_iff.mp reached).1
  have step := paced last bounded first ordered
  rwa [List.getD_eq_getElem?_getD, List.getD_eq_getElem?_getD, found, reached] at step

/-- No check at or after the given time was allowed. -/
def Quiet (since : ℚ) (past : List (ℚ × Bool)) : Prop :=
  ∀ entry ∈ past, since ≤ entry.1 → entry.2 = false

/-- Denied checks lose no refill, and a second without a grant earns the next one. -/
theorem preserves_recovering {rateRps : Nat} {times : List ℚ} (sorted : times.Pairwise (· ≤ ·))
    (positive : 1 ≤ rateRps) (since : ℚ) :
    Preserves rateRps times
      (fun past bucket => Refilled rateRps past bucket ∧
        (Quiet since past → Bucket.Recovering (rateRps : ℚ) rateRps since bucket.level))
      (fun past now allowed => Quiet since past → since + 1 ≤ now → allowed = true) := by
  have rateNonneg : (0 : ℚ) ≤ rateRps := Nat.cast_nonneg rateRps
  have unit : (1 : ℚ) ≤ rateRps := Nat.one_le_cast.mpr positive
  intro past bucket now rest whole stored
  have ready : (bucket.getD (TokenBucket.new rateRps now)).WellFormed rateRps ∧
      (bucket.getD (TokenBucket.new rateRps now)).lastRefill ≤ now ∧
      (Quiet since past → Bucket.Recovering (rateRps : ℚ) rateRps since
        (bucket.getD (TokenBucket.new rateRps now)).level) := by
    cases bucket with
    | none =>
        refine ⟨TokenBucket.new_wellFormed rateRps now, le_rfl, fun _ => ?_⟩
        exact Bucket.recovering_of_full rateNonneg rfl
    | some bucket =>
        obtain ⟨refilled, recovering⟩ := stored bucket rfl
        obtain ⟨wellFormed, later⟩ := refilled.ready sorted whole
        exact ⟨wellFormed, later, recovering⟩
  obtain ⟨wellFormed, later, recovering⟩ := ready
  have drawn := TokenBucket.tryConsume_eq_draw wellFormed later
  refine ⟨fun quiet waited => ?_, refilled_tryConsume wellFormed later _, fun quiet => ?_⟩
  · rw [drawn.1]
    have refilled : (1 : ℚ) ≤ rateRps * (now - since) :=
      one_le_mul_of_one_le_of_one_le unit (by linarith)
    exact (recovering quiet).granted later (by linarith) unit refilled
  · rcases le_or_gt since now with reached | early
    · have refused := quiet _ (List.mem_append_right past List.mem_cons_self) reached
      have before : Quiet since past := fun entry member => quiet entry (by simp [member])
      rw [drawn.2]
      rw [drawn.1] at refused
      exact (recovering before).denied rateNonneg later reached refused
    · have consumed := TokenBucket.tryConsume_wellFormed wellFormed later
      refine Bucket.recovering_of_since_le rateNonneg consumed.tokens_nonneg ?_
      exact (TokenBucket.tryConsume_lastRefill _ now).trans_le early.le

/-- One second without a grant is enough for the next check to pass. -/
theorem allowed_after_second (origin : ℚ) (rateRps : Nat) (positive : 1 ≤ rateRps)
    (events : List Event) (ip : IpAddr) (sorted : (checkTimes ip events).Pairwise (· ≤ ·))
    (since : ℚ) (before after : List Answer) (answer : Answer)
    (split : (RateLimiter.new rateRps).log origin events = before ++ answer :: after)
    (own : answer.ip = ip) (waited : since + 1 ≤ answer.time)
    (quiet : ∀ earlier ∈ before, earlier.ip = ip → since ≤ earlier.time →
      earlier.allowed = false) : answer.allowed = true := by
  have denied : Quiet since (answersOf ip before) := by
    intro entry member reached
    obtain ⟨earlier, found, rfl⟩ := List.mem_map.mp member
    obtain ⟨inside, same⟩ := List.mem_filter.mp found
    exact quiet earlier inside (of_decide_eq_true same) reached
  exact (preserves_recovering sorted positive since).log origin split own denied waited

/-- A client that was denied again and again passes after a second without a grant. -/
theorem allowed_after_second_denied :
    let client := IpAddr.v4 1
    let events := [Event.check client 0, .check client (1 / 3), .sweep 1, .check client (2 / 3),
      .check client (5 / 4)]
    let before := ((RateLimiter.new 1).log 0 events).take 3
    let answer := Answer.mk client (5 / 4) ((((RateLimiter.new 1).log 0 events).map
      Answer.allowed).getD 3 false)
    before.map Answer.allowed = [true, false, false] ∧ answer.allowed = true := by
  intro client events before answer
  have split : (RateLimiter.new 1).log 0 events = before ++ answer :: [] := by decide +kernel
  have quiet : ∀ earlier ∈ before, earlier.ip = client → (1 / 4 : ℚ) ≤ earlier.time →
      earlier.allowed = false := by decide +kernel
  refine ⟨by decide +kernel, ?_⟩
  exact allowed_after_second 0 1 le_rfl events client (by decide +kernel) (1 / 4) before [] answer
    split rfl (by decide +kernel) quiet

end HighperfServer.Middleware
