import HighperfServer.Library.Activity
import HighperfServer.Proof.Middleware.RateLimiter

namespace HighperfServer.Middleware
open Library

namespace RateLimiter

/-- The limiter after all events. -/
def afterAll (origin : ℚ) (limiter : RateLimiter) (events : List Event) : RateLimiter :=
  events.foldl (after origin) limiter

/-- The time at which each address was last refilled. -/
def activity (limiter : RateLimiter) : IpAddr → Option ℚ := fun ip =>
  (limiter.buckets.lookup ip).map fun row => row.2.lastRefill

/-- A check touches its address, after the sweep that its count may start. -/
def entries (limiter : RateLimiter) : Event → List (Activity.Entry IpAddr ℚ)
  | .check ip now =>
      if 0 < limiter.checkCount ∧ limiter.checkCount % evictEveryNChecks = 0 then
        [.sweep now, .touch ip now]
      else [.touch ip now]
  | .sweep now => [.sweep now]

/-- The touches and sweeps of a run; `evict_stale` runs exactly at its sweeps. -/
def trace (origin : ℚ) : RateLimiter → List Event → List (Activity.Entry IpAddr ℚ)
  | _, [] => []
  | limiter, event :: rest => limiter.entries event ++ trace origin (limiter.after origin event) rest

/-- The buckets were all refilled since the clock began. -/
def Since (origin : ℚ) (limiter : RateLimiter) : Prop :=
  ∀ ip last, limiter.activity ip = some last → origin ≤ last

section Step
variable {origin : ℚ} {limiter : RateLimiter}

/-- A sweep drops the idle addresses, also before the clock can represent its cutoff. -/
theorem activity_evictStale (since : limiter.Since origin) (now : ℚ) :
    (limiter.evictStale origin now).activity =
      Activity.after staleBucketTtl limiter.activity (.sweep now) := by
  funext ip
  unfold evictStale checkedSub
  by_cases represented : origin ≤ now - staleBucketTtl
  · simp only [if_pos represented, activity, Activity.after, Table.lookup_keep]
    cases limiter.buckets.lookup ip with
    | none => rfl
    | some row =>
        have cutoff : now - staleBucketTtl ≤ row.2.lastRefill ↔
            now ≤ row.2.lastRefill + staleBucketTtl := sub_le_iff_le_add
        by_cases fresh : now ≤ row.2.lastRefill + staleBucketTtl <;>
          simp [Option.filter, cutoff, fresh]
  · simp only [if_neg represented, Activity.after]
    cases found : limiter.activity ip with
    | none => rfl
    | some last =>
        have fresh : now ≤ last + staleBucketTtl := by
          linarith [since ip last found, not_le.mp represented]
        simp [Option.filter, fresh]

/-- A check files its own time under its address. -/
theorem activity_check (ip : IpAddr) (now : ℚ) :
    (limiter.check origin ip now).2.activity =
      Function.update (limiter.countCheck origin now).activity ip (some now) := by
  have refilled := TokenBucket.tryConsume_lastRefill ((limiter.countCheck origin now).entry ip now) now
  funext other
  by_cases same : other = ip
  · subst same
    rw [Function.update_self, activity, check]
    dsimp only
    rw [Table.lookup_put_self, Option.map_some, refilled]
  · rw [Function.update_of_ne same, activity, activity, check]
    dsimp only
    rw [Table.lookup_put_of_ne _ _ same]

/-- One event changes the activities by its touches and sweeps. -/
theorem activity_after (since : limiter.Since origin) (event : Event) :
    (limiter.after origin event).activity =
      (limiter.entries event).foldl (Activity.after staleBucketTtl) limiter.activity := by
  cases event with
  | sweep now => exact activity_evictStale since now
  | check ip now =>
      have counted : Since origin
          { limiter with checkCount := (limiter.checkCount + 1) % 2 ^ 64 } := since
      rw [after, activity_check, countCheck, entries]
      split
      · rw [activity_evictStale counted]
        rfl
      · rfl

end Step

section Run
variable (origin : ℚ) (limiter : RateLimiter)

/-- The trace of a longer run continues the trace of its past. -/
theorem trace_append (past future : List Event) :
    limiter.trace origin (past ++ future) =
      limiter.trace origin past ++ (limiter.afterAll origin past).trace origin future := by
  induction past generalizing limiter with
  | nil => rfl
  | cons event rest ih =>
      rw [List.cons_append, trace, trace, ih, List.append_assoc]
      rfl

/-- A check touches its address, at times after a sweep. -/
theorem entries_check (ip : IpAddr) (now : ℚ) :
    limiter.entries (.check ip now) = [.sweep now, .touch ip now] ∨
      limiter.entries (.check ip now) = [.touch ip now] := by
  rw [entries]
  split
  · exact .inl rfl
  · exact .inr rfl

/-- The entries of an event carry its time. -/
theorem time_of_mem_entries {event : Event} {entry : Activity.Entry IpAddr ℚ}
    (member : entry ∈ limiter.entries event) : entry.time = event.time := by
  cases event with
  | sweep now =>
      rw [List.mem_singleton.mp member]
      rfl
  | check ip now =>
      rcases limiter.entries_check ip now with both | single
      · rw [both, List.mem_cons, List.mem_singleton] at member
        rcases member with rfl | rfl <;> rfl
      · rw [single, List.mem_singleton] at member
        rw [member]
        rfl

/-- The entries of a trace happen at the times of the events. -/
theorem time_of_mem_trace {events : List Event} {entry : Activity.Entry IpAddr ℚ}
    (member : entry ∈ limiter.trace origin events) : ∃ event ∈ events, entry.time = event.time := by
  induction events generalizing limiter with
  | nil => exact absurd member List.not_mem_nil
  | cons event rest ih =>
      rcases List.mem_append.mp member with first | later
      · exact ⟨event, List.mem_cons_self, limiter.time_of_mem_entries first⟩
      · obtain ⟨other, among, same⟩ := ih _ later
        exact ⟨other, List.mem_cons_of_mem _ among, same⟩

/-- An address is touched exactly by its own checks. -/
theorem touch_mem_entries_iff (event : Event) (ip : IpAddr) (now : ℚ) :
    .touch ip now ∈ limiter.entries event ↔ event = .check ip now := by
  cases event with
  | sweep time => simp [entries]
  | check other time =>
      rcases limiter.entries_check other time with both | single
      · simp [both, eq_comm]
      · simp [single, eq_comm]

/-- The touches of a trace are the checks of the run. -/
theorem touch_mem_trace_iff (events : List Event) (ip : IpAddr) (now : ℚ) :
    .touch ip now ∈ limiter.trace origin events ↔ .check ip now ∈ events := by
  induction events generalizing limiter with
  | nil => simp [trace]
  | cons event rest ih =>
      rw [trace, List.mem_append, List.mem_cons, ih, touch_mem_entries_iff, eq_comm]

/-- The trace is in the order of time when the events are. -/
theorem trace_ordered {events : List Event} (ordered : (events.map Event.time).Pairwise (· ≤ ·)) :
    ((limiter.trace origin events).map Activity.Entry.time).Pairwise (· ≤ ·) := by
  induction events generalizing limiter with
  | nil => exact .nil
  | cons event rest ih =>
      rw [List.map_cons, List.pairwise_cons] at ordered
      obtain ⟨first, later⟩ := ordered
      rw [trace, List.map_append, List.pairwise_append]
      refine ⟨?_, ih _ later, ?_⟩
      · cases event with
        | sweep now => exact List.pairwise_singleton _ _
        | check ip now =>
            rcases limiter.entries_check ip now with both | single
            · simp [both, Activity.Entry.time]
            · simp [single]
      · intro early present late among
        obtain ⟨entry, member, rfl⟩ := List.mem_map.mp present
        obtain ⟨other, after, rfl⟩ := List.mem_map.mp among
        obtain ⟨source, listed, same⟩ := time_of_mem_trace origin _ after
        rw [limiter.time_of_mem_entries member, same]
        exact first _ (List.mem_map_of_mem listed)

/-- The limiter files the activities of its trace. -/
theorem activity_afterAll (rateRps : Nat) {events : List Event}
    (ordered : (events.map Event.time).Pairwise (· ≤ ·))
    (begun : ∀ event ∈ events, origin ≤ event.time) :
    ((new rateRps).afterAll origin events).activity =
      Activity.replay staleBucketTtl ((new rateRps).trace origin events) := by
  induction events using List.reverseRecOn with
  | nil => rfl
  | append_singleton past event ih =>
      rw [List.map_append, List.pairwise_append] at ordered
      have earlier := ordered.1
      have begunPast (other : Event) (member : other ∈ past) : origin ≤ other.time :=
        begun other (List.mem_append_left _ member)
      have filed := ih earlier begunPast
      have tracks := Activity.tracks_replay (by decide : (0 : ℚ) ≤ staleBucketTtl)
        ((new rateRps).trace_ordered origin earlier)
      have since : ((new rateRps).afterAll origin past).Since origin := by
        intro ip last found
        rw [filed] at found
        have touched := tracks.touched ip last found
        exact begunPast _ ((touch_mem_trace_iff origin _ _ _ _).mp touched)
      have reached : (new rateRps).afterAll origin (past ++ [event]) =
          ((new rateRps).afterAll origin past).after origin event := List.foldl_append
      have traced : ((new rateRps).afterAll origin past).trace origin [event] =
          ((new rateRps).afterAll origin past).entries event := List.append_nil _
      rw [reached, activity_after since, filed, trace_append, traced]
      exact List.foldl_append.symm

end Run

/-- A moment of a run lies between its past and its future; the run starts and stops at fixed times
and its events happen in the order of time. -/
structure Moment (start now stop : ℚ) (past future : List Event) : Prop where
  ordered : ((past ++ future).map Event.time).Pairwise (· ≤ ·)
  started : ∀ event ∈ past, start ≤ event.time
  happened : ∀ event ∈ past, event.time ≤ now
  ahead : ∀ event ∈ future, now ≤ event.time
  stops : now ≤ stop

/-- Every interval of the period contains a run of `evict_stale`. -/
def SweptEvery (period start stop origin : ℚ) (limiter : RateLimiter) (events : List Event) : Prop :=
  ∀ first, start ≤ first → first + period ≤ stop →
    ∃ time, .sweep time ∈ limiter.trace origin events ∧ first ≤ time ∧ time ≤ first + period

section Moments
variable {start now stop : ℚ} {past future : List Event}

theorem Moment.ordered_past (moment : Moment start now stop past future) :
    (past.map Event.time).Pairwise (· ≤ ·) := by
  have whole := moment.ordered
  rw [List.map_append, List.pairwise_append] at whole
  exact whole.1

/-- The trace of the past lies between the start and the moment. -/
theorem Moment.entry_time (moment : Moment start now stop past future) {origin : ℚ}
    {limiter : RateLimiter} (entry : Activity.Entry IpAddr ℚ)
    (member : entry ∈ limiter.trace origin past) : start ≤ entry.time ∧ entry.time ≤ now := by
  obtain ⟨event, among, same⟩ := time_of_mem_trace origin limiter member
  rw [same]
  exact ⟨moment.started event among, moment.happened event among⟩

/-- The sweeps of intervals that end before the moment belong to its past. -/
theorem Moment.swept_past (moment : Moment start now stop past future) {period origin : ℚ}
    {limiter : RateLimiter} (swept : SweptEvery period start stop origin limiter (past ++ future))
    (first : ℚ) (low : start ≤ first) (high : first + period < now) :
    ∃ time, .sweep time ∈ limiter.trace origin past ∧ first ≤ time := by
  obtain ⟨time, member, after, before⟩ := swept first low (high.le.trans moment.stops)
  rw [trace_append, List.mem_append] at member
  refine ⟨time, member.resolve_right fun later => ?_, after⟩
  obtain ⟨event, among, same⟩ := time_of_mem_trace origin _ later
  have ahead := moment.ahead event among
  rw [← same] at ahead
  exact absurd (ahead.trans before) (not_le.mpr high)

/-- An address is stored when it has an activity. -/
theorem lookup_eq_none_iff_activity (limiter : RateLimiter) (ip : IpAddr) :
    limiter.buckets.lookup ip = none ↔ limiter.activity ip = none := Option.map_eq_none_iff.symm

/-- The limiter tracks the trace of every past. -/
theorem Moment.tracks (moment : Moment start now stop past future) {origin : ℚ}
    (represented : origin ≤ start) (rateRps : Nat) :
    Activity.Tracks staleBucketTtl ((new rateRps).trace origin past)
      ((new rateRps).afterAll origin past).activity := by
  have begun (event : Event) (member : event ∈ past) : origin ≤ event.time :=
    represented.trans (moment.started event member)
  rw [activity_afterAll origin rateRps moment.ordered_past begun]
  exact Activity.tracks_replay (by decide) ((new rateRps).trace_ordered origin moment.ordered_past)

/-- A stored address was checked within the time to live and one period of the sweeps. -/
theorem Moment.recent_check (moment : Moment start now stop past future) {origin period : ℚ}
    (represented : origin ≤ start) {rateRps : Nat}
    (swept : SweptEvery period start stop origin (new rateRps) (past ++ future)) {ip : IpAddr}
    (present : ((new rateRps).afterAll origin past).buckets.lookup ip ≠ none) :
    ∃ time, .check ip time ∈ past ∧ now ≤ time + staleBucketTtl + period := by
  have tracks := moment.tracks represented rateRps
  rw [Ne, lookup_eq_none_iff_activity] at present
  obtain ⟨last, found⟩ := Option.ne_none_iff_exists'.mp present
  refine ⟨last, (touch_mem_trace_iff origin _ _ _ _).mp (tracks.touched ip last found), ?_⟩
  exact tracks.recent (by decide) (fun entry member => (moment.entry_time entry member).1)
    (moment.swept_past swept) found

end Moments

/-- The distinct addresses checked within the period before a moment. -/
def recentIps (period now : ℚ) (past : List Event) : List IpAddr :=
  (past.filterMap fun event =>
    match event with
    | .check ip time => if now ≤ time + period then some ip else none
    | .sweep _ => none).dedup

/-- The recent addresses are those checked within the period. -/
theorem mem_recentIps {period now : ℚ} {past : List Event} {ip : IpAddr} :
    ip ∈ recentIps period now past ↔ ∃ time, .check ip time ∈ past ∧ now ≤ time + period := by
  rw [recentIps, List.mem_dedup, List.mem_filterMap]
  constructor
  · rintro ⟨event, member, named⟩
    cases event with
    | sweep time => exact absurd named (by simp)
    | check other time =>
        obtain ⟨recent, same⟩ := Option.ite_none_right_eq_some.mp named
        obtain rfl := Option.some.inj same
        exact ⟨time, member, recent⟩
  · rintro ⟨time, member, recent⟩
    exact ⟨_, member, if_pos recent⟩

/-- A table of recent addresses is no larger than their number. -/
theorem bucketCount_le {limiter : RateLimiter} {ips : List IpAddr}
    (listed : ∀ ip, limiter.buckets.lookup ip ≠ none → ip ∈ ips) :
    limiter.bucketCount ≤ ips.length := by
  have inside : limiter.buckets.rows.map Prod.fst ⊆ ips := by
    intro ip member
    obtain ⟨row, present, rfl⟩ := List.mem_map.mp member
    apply listed
    rw [Table.lookup_eq_some_iff.mpr ⟨present, rfl⟩]
    exact Option.some_ne_none row
  have shorter := (limiter.buckets.distinct.subperm inside).length_le
  rwa [List.length_map] at shorter

/-- A limiter swept at least once a minute holds the addresses checked within 300 seconds, and none
whose last check is more than 360 seconds ago. -/
theorem tracks_recent_clients (origin start now stop : ℚ) (rateRps : Nat) (past future : List Event)
    (represented : origin ≤ start) (moment : Moment start now stop past future)
    (swept : SweptEvery 60 start stop origin (new rateRps) (past ++ future)) :
    let limiter := (new rateRps).afterAll origin past
    (∀ ip time, .check ip time ∈ past → now ≤ time + 300 → limiter.buckets.lookup ip ≠ none) ∧
    (∀ ip, (∀ time, .check ip time ∈ past → time + 360 < now) →
      limiter.buckets.lookup ip = none) ∧
    limiter.bucketCount ≤ (recentIps 360 now past).length := by
  intro limiter
  have recent (ip : IpAddr) (present : limiter.buckets.lookup ip ≠ none) :
      ∃ time, .check ip time ∈ past ∧ now ≤ time + 360 := by
    obtain ⟨time, checked, bound⟩ := moment.recent_check represented swept present
    unfold staleBucketTtl at bound
    exact ⟨time, checked, by linarith⟩
  refine ⟨?_, ?_, ?_⟩
  · intro ip time checked within
    rw [Ne, lookup_eq_none_iff_activity]
    exact (moment.tracks represented rateRps).present
      (fun entry member => (moment.entry_time entry member).2)
      ((touch_mem_trace_iff origin _ _ _ _).mpr checked) within
  · intro ip idle
    by_contra present
    obtain ⟨time, checked, within⟩ := recent ip present
    exact absurd within (not_le.mpr (idle time checked))
  · exact bucketCount_le fun ip present => mem_recentIps.mpr (recent ip present)

/-- A client that is idle for six sweeps is forgotten. -/
theorem tracks_recent_clients_idle :
    let client : IpAddr := .v4 1
    let past : List Event := [.check client 0, .sweep 60, .sweep 120, .sweep 180, .sweep 240,
      .sweep 300, .sweep 360]
    ((new 1).afterAll 0 past).buckets.lookup client = none := by
  intro client past
  have moment : Moment 0 400 400 past [] := by
    refine ⟨?_, ?_, ?_, ?_, le_rfl⟩ <;> simp [past, Event.time] <;> norm_num
  have swept : SweptEvery 60 0 400 0 (new 1) (past ++ []) := by
    have traced : (new 1).trace 0 (past ++ []) = [.touch client 0, .sweep 60, .sweep 120,
      .sweep 180, .sweep 240, .sweep 300, .sweep 360] := rfl
    intro first low high
    rw [traced]
    rcases le_or_gt first 60 with sooner | after
    · exact ⟨60, by simp, sooner, by linarith⟩
    rcases le_or_gt first 120 with sooner | after
    · exact ⟨120, by simp, sooner, by linarith⟩
    rcases le_or_gt first 180 with sooner | after
    · exact ⟨180, by simp, sooner, by linarith⟩
    rcases le_or_gt first 240 with sooner | after
    · exact ⟨240, by simp, sooner, by linarith⟩
    rcases le_or_gt first 300 with sooner | after
    · exact ⟨300, by simp, sooner, by linarith⟩
    · exact ⟨360, by simp, by linarith, by linarith⟩
  have tracked := tracks_recent_clients 0 0 400 400 1 past [] le_rfl moment swept
  apply tracked.2.1
  intro time member
  simp [past] at member
  rw [member]
  norm_num

end RateLimiter

end HighperfServer.Middleware
