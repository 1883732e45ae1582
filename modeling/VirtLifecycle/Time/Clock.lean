/-
Module: VirtLifecycle.Time.Clock
Purpose: The clock that waits run on. A reading of it is a number of nanoseconds since it was
  started. It moves only while somebody sleeps, and its timers fire on whole milliseconds.
Specification: [SPEC 5 Concurrency and resource model]: `Instant`, `sleep_until` and `timeout_at` on a
  paused clock.
Main exports: Clock.ceilMilli, Clock.sleepUntil, Clock.elapsed, Clock.IsMilli, Clock.CanShow
-/
import VirtLifecycle.Time.Duration

namespace VirtLifecycle.Clock

/-- The first whole millisecond that is not before `t`. -/
def ceilMilli (t : Nat) : Nat :=
  if t % Duration.milliNanos = 0 then t
  else t - t % Duration.milliNanos + Duration.milliNanos

/-- Where the clock stands after sleeping until `t`: at once if `t` is over, else at the timer's
millisecond. -/
def sleepUntil (now t : Nat) : Nat :=
  if t ≤ now then now else ceilMilli t

/-- The clock has no readings of that many seconds or more. -/
def secondsLimit : Nat := 0x8000000000000000

/-- Whether the clock has a reading. -/
def CanShow (t : Nat) : Prop := t / Duration.secondNanos < secondsLimit

instance (t : Nat) : Decidable (CanShow t) := inferInstanceAs (Decidable (_ < _))

/-- What the clock cannot show comes after what it can. -/
theorem CanShow.lt {a b : Nat} (ha : CanShow a) (hb : ¬ CanShow b) : a < b := by
  apply Nat.lt_of_not_le
  intro notAfter
  exact hb (Nat.lt_of_le_of_lt (Nat.div_le_div_right notAfter) ha)

/-- The time from one reading to a later one. -/
def elapsed (start stop : Nat) : Duration :=
  Duration.ofNanos (stop - start)

/-- A whole number of milliseconds. -/
def IsMilli (t : Nat) : Prop := t % Duration.milliNanos = 0

instance (t : Nat) : Decidable (IsMilli t) := inferInstanceAs (Decidable (_ = _))

theorem ceilMilli_of_isMilli {t : Nat} (h : IsMilli t) : ceilMilli t = t := by
  exact if_pos h

theorem le_ceilMilli (t : Nat) : t ≤ ceilMilli t := by
  unfold ceilMilli Duration.milliNanos
  split <;> omega

theorem ceilMilli_lt_add_milli (t : Nat) : ceilMilli t < t + Duration.milliNanos := by
  unfold ceilMilli Duration.milliNanos
  split <;> omega

theorem le_sleepUntil (now t : Nat) : now ≤ sleepUntil now t := by
  have := le_ceilMilli t
  simp only [sleepUntil]
  split <;> omega

theorem isMilli_ceilMilli (t : Nat) : IsMilli (ceilMilli t) := by
  unfold IsMilli ceilMilli Duration.milliNanos
  split <;> omega

/-- Different whole milliseconds are a millisecond apart. -/
theorem IsMilli.add_milli_le {a b : Nat} (ha : IsMilli a) (hb : IsMilli b) (h : a < b) :
    a + Duration.milliNanos ≤ b := by
  unfold IsMilli Duration.milliNanos at *
  omega

theorem IsMilli.add {a b : Nat} (ha : IsMilli a) (hb : IsMilli b) : IsMilli (a + b) := by
  unfold IsMilli Duration.milliNanos at *
  omega

theorem IsMilli.mul {a : Nat} (n : Nat) (ha : IsMilli a) : IsMilli (n * a) := by
  unfold IsMilli at *
  rw [Nat.mul_mod, ha, Nat.mul_zero, Nat.zero_mod]

theorem IsMilli.min {a b : Nat} (ha : IsMilli a) (hb : IsMilli b) : IsMilli (min a b) := by
  rcases Nat.le_total a b with low | high
  · rwa [Nat.min_eq_left low]
  · rwa [Nat.min_eq_right high]

theorem IsMilli.max {a b : Nat} (ha : IsMilli a) (hb : IsMilli b) : IsMilli (max a b) := by
  rcases Nat.le_total a b with low | high
  · rwa [Nat.max_eq_right low]
  · rwa [Nat.max_eq_left high]

theorem until_le_sleepUntil (now t : Nat) : t ≤ sleepUntil now t := by
  have := le_ceilMilli t
  simp only [sleepUntil]
  split <;> omega

/-- On whole milliseconds a sleep ends exactly when it should. -/
theorem sleepUntil_of_isMilli {now t : Nat} (h : IsMilli t) : sleepUntil now t = max now t := by
  simp only [sleepUntil, ceilMilli_of_isMilli h]
  split <;> omega

/-- From a whole millisecond on, a sleep is rounded up to whole milliseconds. -/
theorem sleepUntil_add {now : Nat} (h : IsMilli now) (d : Nat) :
    sleepUntil now (now + d) = now + ceilMilli d := by
  unfold IsMilli at h
  unfold sleepUntil ceilMilli
  unfold Duration.milliNanos at *
  repeat' split
  all_goals omega

end VirtLifecycle.Clock
