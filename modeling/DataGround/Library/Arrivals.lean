import Mathlib.Data.List.Count
import Mathlib.Tactic.Linarith
import Mathlib.Tactic.Ring

/-!
# Theoretical arrival times

A rate limiter that keeps one number for each bucket: the time at which the next event would arrive
if all events came at the steady rate of one in every `interval`.  An event may come early, by as
much as `burst - 1` intervals; an event that is admitted moves the number on by one interval, from
where it is or from now, whichever is later.

* `Owed` -- the number has been moved on by one interval for each event admitted since any time;
* `Within` -- in no span of time are more events admitted than the burst and the rate allow;
* `Owed.accept`, `Within.accept` -- an event that is accepted keeps both.
-/

namespace Arrivals

/-- How many events there are from one time to another. -/
def between (times : List ℤ) (start finish : ℤ) : ℕ :=
  times.countP fun time => start ≤ time ∧ time ≤ finish

/-- How many events there are since a time. -/
def since (times : List ℤ) (start : ℤ) : ℕ :=
  times.countP fun time => start ≤ time

variable {interval arrival now start finish : ℤ} {burst : ℕ} {times : List ℤ}

lemma since_concat : since (times ++ [now]) start = since times start + if start ≤ now then 1 else 0 := by
  rw [since, List.countP_append, List.countP_singleton]
  simp [since]

lemma between_concat : between (times ++ [now]) start finish =
    between times start finish + if start ≤ now ∧ now ≤ finish then 1 else 0 := by
  rw [between, List.countP_append, List.countP_singleton]
  simp [between]

/-- As long as no event is later than `finish`, it does not matter. -/
lemma between_eq_since (h : ∀ time ∈ times, time ≤ finish) :
    between times start finish = since times start := by
  refine List.countP_congr fun time htime => ?_
  simp [h time htime]

/-- The arrival time has been moved on for every event. -/
def Owed (interval : ℤ) (times : List ℤ) (arrival : ℤ) : Prop :=
  ∀ start, 0 < since times start → start + since times start * interval ≤ arrival

/-- The events keep to the rate, but for a burst. -/
def Within (interval : ℤ) (burst : ℕ) (times : List ℤ) : Prop :=
  ∀ start finish, start ≤ finish →
    (between times start finish - burst : ℤ) * interval ≤ finish - start

lemma owed_nil : Owed interval [] arrival := by
  intro start h
  simp [since] at h

lemma within_nil (hinterval : 0 ≤ interval) : Within interval burst [] := by
  intro start finish hle
  have hburst : 0 ≤ (burst : ℤ) * interval := mul_nonneg (by omega) hinterval
  simp only [between, List.countP_nil, Nat.cast_zero, zero_sub, neg_mul]
  omega

/-- A later arrival time owes as much. -/
lemma Owed.later {arrival' : ℤ} (h : Owed interval times arrival) (hle : arrival ≤ arrival') :
    Owed interval times arrival' :=
  fun start hstart => (h start hstart).trans hle

/-- An event that is admitted moves the arrival time on. -/
lemma Owed.accept (h : Owed interval times arrival) (hinterval : 0 ≤ interval) :
    Owed interval (times ++ [now]) (max arrival now + interval) := by
  intro start hstart
  rw [since_concat] at hstart ⊢
  by_cases hnow : start ≤ now
  · rw [if_pos hnow]
    rcases Nat.eq_zero_or_pos (since times start) with hnone | hsome
    · rw [hnone]
      have := le_max_right arrival now
      push_cast
      linarith
    · have hold := h start hsome
      have := le_max_left arrival now
      push_cast
      linarith
  · rw [if_neg hnow, Nat.add_zero] at hstart ⊢
    have hold := h start hstart
    have := le_max_left arrival now
    linarith

/-- **An event that is not too early keeps to the rate.** -/
lemma Within.accept (h : Within interval burst times) (howed : Owed interval times arrival)
    (hinterval : 0 ≤ interval) (hburst : 1 ≤ burst) (htimes : ∀ time ∈ times, time ≤ now)
    (hearly : arrival - interval * (burst - 1) ≤ now) : Within interval burst (times ++ [now]) := by
  intro start finish hle
  rw [between_concat]
  split
  · rename_i hnow
    have hlate : ∀ time ∈ times, time ≤ finish := fun time htime =>
      (htimes time htime).trans hnow.2
    rw [between_eq_since hlate]
    rcases Nat.eq_zero_or_pos (since times start) with hnone | hsome
    · rw [hnone]
      have hone : (1 - burst : ℤ) * interval ≤ 0 :=
        mul_nonpos_of_nonpos_of_nonneg (by omega) hinterval
      push_cast
      linarith
    · have hold := howed start hsome
      push_cast
      nlinarith [hnow.2]
  · exact h start finish hle

lemma Within.between_le (h : Within interval burst times) (hinterval : 0 < interval)
    {span : ℤ} (hspan : 0 ≤ span) :
    (between times start (start + span) : ℤ) ≤ burst + span / interval := by
  have hrate := h start (start + span) (by omega)
  have hfloor : (between times start (start + span) - burst : ℤ) ≤ span / interval :=
    (Int.le_ediv_iff_mul_le hinterval).mpr (by linarith)
  linarith

end Arrivals
