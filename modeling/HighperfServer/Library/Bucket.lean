import Mathlib.Algebra.Order.Field.Basic
import Mathlib.Algebra.Order.Ring.Abs
import Mathlib.Tactic.Linarith
import Mathlib.Tactic.Ring

namespace HighperfServer.Library.Bucket

section Window
variable {K : Type} [LinearOrder K]

/-- The granted draws are counted only inside the window. -/
def granted (first last : K) (times : List K) (answers : List Bool) : Nat :=
  (times.zip answers).countP fun entry => entry.2 && decide (first ≤ entry.1 ∧ entry.1 ≤ last)

theorem granted_cons (first last now : K) (times : List K) (answer : Bool) (answers : List Bool) :
    granted first last (now :: times) (answer :: answers) =
      granted first last times answers +
        if answer && decide (first ≤ now ∧ now ≤ last) then 1 else 0 := by
  simp only [granted, List.zip_cons_cons, List.countP_cons]

/-- No draw is granted when the window lies in the past. -/
theorem granted_of_late {first last : K} {times : List K} (answers : List Bool)
    (late : ∀ time ∈ times, last < time) : granted first last times answers = 0 := by
  unfold granted
  rw [List.countP_eq_zero]
  rintro ⟨time, answer⟩ member
  have after := late time (List.of_mem_zip member).1
  simp [not_le.mpr after]

end Window

variable {K : Type} [Field K] [LinearOrder K]

/-- A level records the amount at the time of the last update. -/
structure Level (K : Type) where
  amount : K
  since : K

/-- The amount grows at a constant rate and saturates at the burst. -/
def refill (burst rate : K) (level : Level K) (now : K) : K :=
  min (level.amount + (now - level.since) * rate) burst

/-- A draw refills the bucket and takes one unit if a unit is there. -/
def draw (burst rate : K) (level : Level K) (now : K) : Bool × Level K :=
  if 1 ≤ refill burst rate level now then (true, ⟨refill burst rate level now - 1, now⟩)
  else (false, ⟨refill burst rate level now, now⟩)

/-- The answers of successive draws at the given times. -/
def draws (burst rate : K) : Level K → List K → List Bool
  | _, [] => []
  | level, now :: rest =>
      (draw burst rate level now).1 :: draws burst rate (draw burst rate level now).2 rest

theorem refill_le_burst (burst rate : K) (level : Level K) (now : K) :
    refill burst rate level now ≤ burst := min_le_right _ _

theorem refill_le_linear (burst rate : K) (level : Level K) (now : K) :
    refill burst rate level now ≤ level.amount + (now - level.since) * rate := min_le_left _ _

/-- A draw leaves the level at its own time. -/
theorem draw_since (burst rate : K) (level : Level K) (now : K) :
    (draw burst rate level now).2.since = now := by
  unfold draw
  split <;> rfl

/-- A draw pays for its answer out of the refilled amount. -/
theorem draw_amount (burst rate : K) (level : Level K) (now : K) :
    (draw burst rate level now).2.amount + (if (draw burst rate level now).1 then 1 else 0) =
      refill burst rate level now := by
  unfold draw
  split
  · simp
  · simp

/-- Every stretch of draws fits into one burst and the refill over the stretch. -/
def Conforming (burst rate : K) (times : List K) : Prop :=
  ∀ first last start stop, first ≤ last → times[first]? = some start → times[last]? = some stop →
    ((last - first + 1 : Nat) : K) ≤ burst + rate * (stop - start)

/-- Since an earlier draw that found the bucket full, nothing but the draws has left it. -/
def Funded (burst rate : K) (times : List K) (count : Nat) (level : Level K) : Prop :=
  ∃ first start, first < count ∧ times[first]? = some start ∧
    burst + rate * (level.since - start) - ((count - first : Nat) : K) ≤ level.amount

section Conforming
variable {burst rate : K} {times : List K} {count : Nat} {level : Level K} {now : K}

/-- A full bucket grants a conforming draw. -/
theorem Conforming.draw_full (conforming : Conforming burst rate times)
    (next : times[count]? = some now) (full : refill burst rate level now = burst) :
    (draw burst rate level now).1 = true ∧
      Funded burst rate times (count + 1) (draw burst rate level now).2 := by
  have unit : 1 ≤ burst := by
    have single := conforming count count now now le_rfl next next
    simpa using single
  rw [draw, full, if_pos unit]
  refine ⟨rfl, count, now, Nat.lt_succ_self count, next, ?_⟩
  rw [Nat.add_sub_cancel_left, sub_self, mul_zero, add_zero, Nat.cast_one]

end Conforming

/-- Nothing of the refill since the given time is missing. -/
def Recovering (burst rate since : K) (level : Level K) : Prop :=
  ∀ now, level.since ≤ now → since ≤ now →
    min burst (rate * (now - since)) ≤ refill burst rate level now

/-- After the time of one whole burst the next draw is granted. -/
theorem Recovering.granted {burst rate since : K} {level : Level K} {now : K}
    (recovering : Recovering burst rate since level) (later : level.since ≤ now)
    (reached : since ≤ now) (unit : 1 ≤ burst)
    (refilled : 1 ≤ rate * (now - since)) : (draw burst rate level now).1 = true := by
  have held := recovering now later reached
  have enough : 1 ≤ refill burst rate level now := (le_min unit refilled).trans held
  rw [draw, if_pos enough]

variable [IsStrictOrderedRing K]

/-- A draw leaves no negative amount. -/
theorem draw_amount_nonneg {burst rate : K} {level : Level K} {now : K} (burstNonneg : 0 ≤ burst)
    (rateNonneg : 0 ≤ rate) (amountNonneg : 0 ≤ level.amount) (later : level.since ≤ now) :
    0 ≤ (draw burst rate level now).2.amount := by
  have grown : 0 ≤ (now - level.since) * rate := mul_nonneg (sub_nonneg.mpr later) rateNonneg
  have filled : 0 ≤ refill burst rate level now := le_min (add_nonneg amountNonneg grown) burstNonneg
  unfold draw
  split
  · rename_i unit
    exact sub_nonneg.mpr unit
  · exact filled

/-- From the last update on, the grants are paid by the stored amount and the refill. -/
theorem granted_le_stored {burst rate : K} (rateNonneg : 0 ≤ rate) (first last : K)
    (level : Level K) (times : List K) (sorted : (level.since :: times).Pairwise (· ≤ ·))
    (amountNonneg : 0 ≤ level.amount) (burstNonneg : 0 ≤ burst) (inside : level.since ≤ last) :
    (granted first last times (draws burst rate level times) : K) ≤
      level.amount + (last - level.since) * rate := by
  induction times generalizing level with
  | nil =>
      have grown : 0 ≤ (last - level.since) * rate := mul_nonneg (sub_nonneg.mpr inside) rateNonneg
      simpa [granted] using add_nonneg amountNonneg grown
  | cons now rest ih =>
      have later := List.rel_of_pairwise_cons sorted List.mem_cons_self
      have sortedRest := sorted.of_cons
      by_cases reached : now ≤ last
      · have paid := draw_amount burst rate level now
        have linear := refill_le_linear burst rate level now
        have sortedNext : ((draw burst rate level now).2.since :: rest).Pairwise (· ≤ ·) := by
          rw [draw_since]
          exact sortedRest
        have tail := ih (draw burst rate level now).2 sortedNext
          (draw_amount_nonneg burstNonneg rateNonneg amountNonneg later) (by rw [draw_since]; exact reached)
        rw [draw_since] at tail
        have one : ((if (draw burst rate level now).1 && decide (first ≤ now ∧ now ≤ last)
            then 1 else 0 : Nat) : K) ≤ if (draw burst rate level now).1 then 1 else 0 := by
          cases (draw burst rate level now).1 <;> simp
          split <;> simp
        rw [draws, granted_cons, Nat.cast_add]
        have split : (last - level.since) * rate = (now - level.since) * rate + (last - now) * rate := by
          ring
        linarith
      · have late : ∀ time ∈ now :: rest, last < time := by
          have after : last < now := not_le.mp reached
          intro time member
          rcases List.mem_cons.mp member with rfl | inRest
          · exact after
          · exact lt_of_lt_of_le after (List.rel_of_pairwise_cons sortedRest inRest)
        rw [granted_of_late _ late, Nat.cast_zero]
        exact add_nonneg amountNonneg (mul_nonneg (sub_nonneg.mpr inside) rateNonneg)

/-- Every window grants at most one burst and the refill over its length. -/
theorem granted_le_window {burst rate : K} (rateNonneg : 0 ≤ rate) (burstNonneg : 0 ≤ burst)
    (first last : K) (window : first ≤ last) (level : Level K) (times : List K)
    (sorted : (level.since :: times).Pairwise (· ≤ ·)) (amountNonneg : 0 ≤ level.amount) :
    (granted first last times (draws burst rate level times) : K) ≤
      burst + rate * (last - first) := by
  induction times generalizing level with
  | nil =>
      have grown : 0 ≤ rate * (last - first) := mul_nonneg rateNonneg (sub_nonneg.mpr window)
      simpa [granted] using add_nonneg burstNonneg grown
  | cons now rest ih =>
      have later := List.rel_of_pairwise_cons sorted List.mem_cons_self
      have sortedRest := sorted.of_cons
      have sortedNext : ((draw burst rate level now).2.since :: rest).Pairwise (· ≤ ·) := by
        rw [draw_since]
        exact sortedRest
      have nonneg := draw_amount_nonneg burstNonneg rateNonneg amountNonneg later
      rw [draws, granted_cons]
      by_cases inside : first ≤ now ∧ now ≤ last
      · have paid := draw_amount burst rate level now
        have full := refill_le_burst burst rate level now
        have tail := granted_le_stored rateNonneg first last (draw burst rate level now).2 rest
          sortedNext nonneg burstNonneg (by rw [draw_since]; exact inside.2)
        rw [draw_since] at tail
        have shorter : (last - now) * rate ≤ rate * (last - first) := by
          rw [mul_comm]
          exact mul_le_mul_of_nonneg_left (sub_le_sub_left inside.1 last) rateNonneg
        simp only [inside, and_self, decide_true, Bool.and_true, Nat.cast_add]
        rw [Nat.cast_ite, Nat.cast_one, Nat.cast_zero]
        linarith
      · simp only [inside, decide_false, Bool.and_false, Bool.false_eq_true, if_false, Nat.add_zero]
        exact ih _ sortedNext nonneg

section Conforming
variable {burst rate : K} {times : List K} {count : Nat} {level : Level K} {now : K}

/-- A bucket that has paid for the earlier draws grants the next conforming one. -/
theorem Funded.draw (conforming : Conforming burst rate times)
    (funded : Funded burst rate times count level) (next : times[count]? = some now) :
    (draw burst rate level now).1 = true ∧
      Funded burst rate times (count + 1) (draw burst rate level now).2 := by
  by_cases full : refill burst rate level now = burst
  · exact conforming.draw_full next full
  · obtain ⟨first, start, before, found, paid⟩ := funded
    have linear : refill burst rate level now = level.amount + (now - level.since) * rate := by
      rcases min_choice (level.amount + (now - level.since) * rate) burst with same | same
      · exact same
      · exact absurd same full
    have stretch := conforming first count start now before.le found next
    have longer : ((count - first + 1 : Nat) : K) = ((count - first : Nat) : K) + 1 := Nat.cast_succ _
    have split : rate * (now - start) = rate * (level.since - start) + (now - level.since) * rate := by
      ring
    have unit : 1 ≤ refill burst rate level now := by
      rw [linear]
      linarith
    rw [Bucket.draw, if_pos unit]
    refine ⟨rfl, first, start, by omega, found, ?_⟩
    rw [show count + 1 - first = count - first + 1 by omega, longer, linear]
    dsimp only
    linarith

end Conforming

section Recovering
variable {burst rate since : K} {level : Level K} {now : K}

/-- A bucket that was last updated earlier recovers from what it holds. -/
theorem recovering_of_since_le (rateNonneg : 0 ≤ rate) (amountNonneg : 0 ≤ level.amount)
    (earlier : level.since ≤ since) : Recovering burst rate since level := by
  intro now _ _
  have longer : rate * (now - since) ≤ (now - level.since) * rate := by
    rw [mul_comm]
    exact mul_le_mul_of_nonneg_right (sub_le_sub_left earlier now) rateNonneg
  rw [refill, min_comm]
  exact min_le_min_right burst (by linarith)

/-- A full bucket has nothing to recover. -/
theorem recovering_of_full (rateNonneg : 0 ≤ rate) (full : level.amount = burst) :
    Recovering burst rate since level := by
  intro now later _
  have grown : 0 ≤ (now - level.since) * rate := mul_nonneg (sub_nonneg.mpr later) rateNonneg
  rw [refill, full, min_eq_right (le_add_of_nonneg_right grown)]
  exact min_le_left _ _

/-- A denied draw loses nothing. -/
theorem Recovering.denied (rateNonneg : 0 ≤ rate) (recovering : Recovering burst rate since level)
    (later : level.since ≤ now) (reached : since ≤ now)
    (refused : (draw burst rate level now).1 = false) :
    Recovering burst rate since (draw burst rate level now).2 := by
  have short : ¬ 1 ≤ refill burst rate level now := by
    intro unit
    rw [draw, if_pos unit] at refused
    exact absurd refused (by simp)
  rw [draw, if_neg short]
  intro next after _
  have held := recovering now later reached
  have grown : 0 ≤ (next - now) * rate := mul_nonneg (sub_nonneg.mpr after) rateNonneg
  have split : rate * (next - since) = rate * (now - since) + (next - now) * rate := by
    ring
  apply le_min
  · rcases min_le_iff.mp held with burstHeld | refillHeld
    · exact (min_le_left _ _).trans (by dsimp only; linarith)
    · exact (min_le_right _ _).trans (by dsimp only; linarith)
  · exact min_le_left _ _

end Recovering

end HighperfServer.Library.Bucket
