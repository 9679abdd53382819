import Mathlib.Algebra.Order.Field.Basic
import Mathlib.Data.List.Induction
import Mathlib.Logic.Function.Basic
import Mathlib.Tactic.Linarith

namespace HighperfServer.Library.Activity

/-- A table of last activities sees its keys touched and is swept from time to time. -/
inductive Entry (Key K : Type) where
  | touch (key : Key) (time : K)
  | sweep (time : K)

/-- The time of an entry. -/
def Entry.time {Key K : Type} : Entry Key K → K
  | .touch _ time => time
  | .sweep time => time

section Retention
variable {Key K : Type} [Field K] [LinearOrder K]

/-- The table holds touches of the past that no sweep has found idle, and misses a touch only after
such a sweep. -/
structure Tracks (ttl : K) (past : List (Entry Key K)) (table : Key → Option K) : Prop where
  touched : ∀ key last, table key = some last → .touch key last ∈ past
  unswept : ∀ key last time, table key = some last → .sweep time ∈ past → time ≤ last + ttl
  kept : ∀ key time, .touch key time ∈ past →
    (∃ last, table key = some last ∧ time ≤ last) ∨ ∃ late, .sweep late ∈ past ∧ time + ttl < late

variable [IsStrictOrderedRing K] {ttl : K} {past : List (Entry Key K)} {table : Key → Option K}

/-- A key touched within the time to live is in the table. -/
theorem Tracks.present (tracks : Tracks ttl past table) {now time : K} {key : Key}
    (bounded : ∀ entry ∈ past, entry.time ≤ now) (member : .touch key time ∈ past)
    (recent : now ≤ time + ttl) : table key ≠ none := by
  rcases tracks.kept key time member with ⟨last, stored, _⟩ | ⟨late, swept, idle⟩
  · rw [stored]
    exact Option.some_ne_none last
  · have before : late ≤ now := bounded _ swept
    linarith

/-- A key in a table that is swept once in every period was touched within the time to live and
one period. -/
theorem Tracks.recent (tracks : Tracks ttl past table) {now start period last : K} {key : Key}
    (nonneg : 0 ≤ ttl) (since : ∀ entry ∈ past, start ≤ entry.time)
    (dense : ∀ first, start ≤ first → first + period < now →
      ∃ time, .sweep time ∈ past ∧ first ≤ time) (found : table key = some last) :
    now ≤ last + ttl + period := by
  by_contra idle
  obtain ⟨first, low, high⟩ := exists_between (show last + ttl < now - period by linarith)
  have begun : start ≤ last := since _ (tracks.touched key last found)
  obtain ⟨time, swept, late⟩ := dense first (by linarith) (by linarith)
  have fresh := tracks.unswept key last time found swept
  linarith

end Retention

section Replay
variable {Key K : Type} [DecidableEq Key] [Field K] [LinearOrder K]

/-- A touch files its time under the key, and a sweep drops what has been idle for longer than the
time to live. -/
def after (ttl : K) (table : Key → Option K) : Entry Key K → Key → Option K
  | .touch key time => Function.update table key (some time)
  | .sweep time => fun key => (table key).filter fun last => time ≤ last + ttl

/-- The table after a whole trace. -/
def replay (ttl : K) (trace : List (Entry Key K)) : Key → Option K :=
  trace.foldl (after ttl) fun _ => none

variable [IsStrictOrderedRing K] {ttl : K} {past : List (Entry Key K)} {table : Key → Option K}

/-- A touch tracks its key. -/
theorem Tracks.touch (tracks : Tracks ttl past table) (nonneg : 0 ≤ ttl)
    {key : Key} {time : K} (latest : ∀ entry ∈ past, entry.time ≤ time) :
    Tracks ttl (past ++ [.touch key time]) (after ttl table (.touch key time)) where
  touched other last found := by
    by_cases same : other = key
    · subst same
      obtain rfl : time = last := by simpa [after] using found
      exact List.mem_append_right _ List.mem_cons_self
    · rw [after, Function.update_of_ne same] at found
      exact List.mem_append_left _ (tracks.touched other last found)
  unswept other last late found swept := by
    have earlier : .sweep late ∈ past := by simpa using swept
    by_cases same : other = key
    · subst same
      obtain rfl : time = last := by simpa [after] using found
      have before : late ≤ time := latest _ earlier
      linarith
    · rw [after, Function.update_of_ne same] at found
      exact tracks.unswept other last late found earlier
  kept other since member := by
    have filed : after ttl table (.touch key time) key = some time := Function.update_self ..
    rcases List.mem_append.mp member with earlier | last
    · by_cases same : other = key
      · subst same
        exact .inl ⟨time, filed, latest _ earlier⟩
      · rw [after, Function.update_of_ne same]
        refine (tracks.kept other since earlier).imp id ?_
        rintro ⟨late, swept, idle⟩
        exact ⟨late, List.mem_append_left _ swept, idle⟩
    · obtain ⟨rfl, rfl⟩ := Entry.touch.inj (List.mem_singleton.mp last)
      exact .inl ⟨_, filed, le_rfl⟩

/-- A sweep keeps the table tracked. -/
theorem Tracks.sweep (tracks : Tracks ttl past table) (time : K) :
    Tracks ttl (past ++ [.sweep time]) (after ttl table (.sweep time)) where
  touched key last found := by
    obtain ⟨stored, _⟩ := Option.filter_eq_some_iff.mp found
    exact List.mem_append_left _ (tracks.touched key last stored)
  unswept key last late found swept := by
    obtain ⟨stored, fresh⟩ := Option.filter_eq_some_iff.mp found
    rcases List.mem_append.mp swept with earlier | now
    · exact tracks.unswept key last late stored earlier
    · obtain rfl := Entry.sweep.inj (List.mem_singleton.mp now)
      exact of_decide_eq_true fresh
  kept key since member := by
    have earlier : .touch key since ∈ past := by simpa using member
    rcases tracks.kept key since earlier with ⟨last, stored, before⟩ | ⟨late, swept, idle⟩
    · by_cases fresh : time ≤ last + ttl
      · exact .inl ⟨last, Option.filter_eq_some_iff.mpr ⟨stored, decide_eq_true fresh⟩, before⟩
      · right
        refine ⟨time, List.mem_append_right _ List.mem_cons_self, ?_⟩
        linarith [not_le.mp fresh]
    · exact .inr ⟨late, List.mem_append_left _ swept, idle⟩

/-- The table tracks every trace in the order of time. -/
theorem tracks_replay (nonneg : 0 ≤ ttl) {trace : List (Entry Key K)}
    (ordered : (trace.map Entry.time).Pairwise (· ≤ ·)) : Tracks ttl trace (replay ttl trace) := by
  induction trace using List.reverseRecOn with
  | nil =>
      constructor
      · intro key last found
        exact absurd found (by simp [replay])
      · intro key last time found
        exact absurd found (by simp [replay])
      · intro key time member
        exact absurd member List.not_mem_nil
  | append_singleton past entry ih =>
      rw [List.map_append, List.pairwise_append] at ordered
      obtain ⟨orderedPast, _, across⟩ := ordered
      have tracks := ih orderedPast
      have latest (earlier : Entry Key K) (member : earlier ∈ past) : earlier.time ≤ entry.time :=
        across _ (List.mem_map_of_mem member) _ (by simp)
      rw [replay, List.foldl_append, ← replay]
      cases entry with
      | touch key time => exact tracks.touch nonneg latest
      | sweep time => exact tracks.sweep time

end Replay

end HighperfServer.Library.Activity
