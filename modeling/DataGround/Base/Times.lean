import Mathlib.Algebra.Order.Group.Int

/-!
# Times in the program and in the database

The program computes with nanoseconds; the columns of the database keep microseconds.
-/

namespace DataGround

/-- A time as the database stores it: in microseconds, the rest is cut off. -/
def storedTime (time : ℤ) : ℤ :=
  time / 1000

/-- A time that was stored, in nanoseconds. -/
def loadedTime (time : ℤ) : ℤ :=
  1000 * time

lemma loadedTime_storedTime_le (time : ℤ) : loadedTime (storedTime time) ≤ time := by
  unfold loadedTime storedTime
  omega

lemma storedTime_loadedTime (time : ℤ) : storedTime (loadedTime time) = time := by
  unfold loadedTime storedTime
  omega

/-- A whole number of microseconds is stored as it is. -/
lemma loadedTime_storedTime {time : ℤ} (h : 1000 ∣ time) : loadedTime (storedTime time) = time := by
  unfold loadedTime storedTime
  omega

end DataGround
