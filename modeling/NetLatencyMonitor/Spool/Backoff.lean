import Mathlib.Algebra.Order.Ring.Int
import NetLatencyMonitor.Spool.Drain

/-! `Backoff` against the formula in its comment: the loop doubles in wrapping arithmetic
and looks for the overflow afterwards. -/

namespace NetLatencyMonitor.Spool

open Clock

/-- The documented window, computed without overflow. -/
def backoffWindow (attempts : Int) (base cap : Duration) : Duration :=
  min (2 ^ (max attempts 0).toNat * base) cap

section Doubling

variable {cap w : Int}

/-- One doubling of what fits is exact, or its overflow shows as a negative number. -/
theorem wrap64_double (positive : 0 < w) (fits : w < 2 ^ 63) :
    wrap64 (w * 2) = w * 2 ∨ wrap64 (w * 2) < 0 ∧ 2 ^ 63 ≤ w * 2 := by
  by_cases small : w * 2 < 2 ^ 63
  · exact .inl (wrap64_eq_self_iff.mpr ⟨by omega, small⟩)
  · refine .inr ⟨?_, Int.not_lt.mp small⟩
    rw [wrap64, Int.bmod_def]
    omega

/-- So the test after the doubling tells whether the exact double has reached the cap. -/
theorem doubling_stops_iff (positive : 0 < w) (fits : w < 2 ^ 63) (capPos : 0 < cap) (capFits : cap < 2 ^ 63) :
    (wrap64 (w * 2) ≥ cap ∨ wrap64 (w * 2) ≤ 0) ↔ cap ≤ w * 2 := by
  rcases wrap64_double positive fits with unwrapped | ⟨negative, large⟩
  · rw [unwrapped]
    omega
  · omega

/-- A doubling that does not stop the loop was exact. -/
theorem wrap64_double_of_lt (positive : 0 < w) (capFits : cap < 2 ^ 63) (below : w * 2 < cap) :
    wrap64 (w * 2) = w * 2 :=
  wrap64_eq_self_iff.mpr ⟨by omega, by omega⟩

/-- The loop stops early only when the exact power has reached the cap, and computes that
power otherwise. -/
theorem backoffLoop_eq (capPos : 0 < cap) (capFits : cap < 2 ^ 63) (rounds : Nat) (positive : 0 < w)
    (fits : w < 2 ^ 63) :
    (backoffLoop cap rounds w = (cap, true) ∧ cap ≤ 2 ^ rounds * w) ∨
      backoffLoop cap rounds w = (2 ^ rounds * w, false) := by
  induction rounds generalizing w with
  | zero =>
    right
    rw [backoffLoop, pow_zero, Int.one_mul]
  | succ rounds ih =>
    have stops := doubling_stops_iff positive fits capPos capFits
    have power : 2 ^ (rounds + 1) * w = 2 ^ rounds * (w * 2) := by rw [pow_succ, Int.mul_assoc, Int.mul_comm 2 w]
    rw [power, backoffLoop]
    by_cases reached : cap ≤ w * 2
    · left
      have grows : w * 2 ≤ 2 ^ rounds * (w * 2) :=
        le_mul_of_one_le_left (by omega) (one_le_pow₀ (show (1 : Int) ≤ 2 by decide))
      exact ⟨if_pos (stops.mpr reached), Int.le_trans reached grows⟩
    · have below : w * 2 < cap := Int.not_le.mp reached
      rw [if_neg (fun stopped => reached (stops.mp stopped)), wrap64_double_of_lt positive capFits below]
      exact ih (by omega) (by omega)

end Doubling

section Window

variable {base cap : Int}

private theorem backoff_eq_window (basePos : 0 < base) (baseFits : base < 2 ^ 63) (capPos : 0 < cap)
    (capFits : cap < 2 ^ 63)
    (attempts : Int) : backoff attempts base cap = backoffWindow attempts base cap := by
  have rounds : (max attempts 0).toNat = attempts.toNat := by omega
  rw [backoffWindow, rounds, backoff]
  rcases backoffLoop_eq capPos capFits attempts.toNat basePos baseFits with ⟨stopped, reached⟩ | computed
  · rw [stopped]
    exact (min_eq_right reached).symm
  · rw [computed]
    by_cases above : 2 ^ attempts.toNat * base > cap
    · simp only [above, if_true, Bool.false_eq_true, if_false]
      exact (min_eq_right (Int.le_of_lt above)).symm
    · simp only [above, Bool.false_eq_true, if_false]
      exact (min_eq_left (Int.not_lt.mp above)).symm

private theorem backoffWindow_pos (basePos : 0 < base) (capPos : 0 < cap) (attempts : Int) :
    0 < backoffWindow attempts base cap :=
  lt_min (Int.mul_pos (pow_pos (show (0 : Int) < 2 by decide) _) basePos) capPos

private theorem backoffWindow_le (attempts : Int) : backoffWindow attempts base cap ≤ cap := min_le_right _ _

private theorem backoffWindow_mono (basePos : 0 < base) {fewer more : Int} (ordered : fewer ≤ more) :
    backoffWindow fewer base cap ≤ backoffWindow more base cap := by
  have rounds : (max fewer 0).toNat ≤ (max more 0).toNat := by omega
  have powers : (2 : Int) ^ (max fewer 0).toNat ≤ 2 ^ (max more 0).toNat :=
    pow_le_pow_right₀ (show (1 : Int) ≤ 2 by decide) rounds
  exact min_le_min_right cap (Int.mul_le_mul_of_nonneg_right powers (Int.le_of_lt basePos))

end Window

/-- For all positive `int64` durations and every number of attempts the wrapping loop
computes the documented window, which is positive, at most the cap, and grows with the
attempts. -/
theorem backoff_saturates {base cap : Duration} (basePos : 0 < base) (baseFits : base < 2 ^ 63) (capPos : 0 < cap)
    (capFits : cap < 2 ^ 63) :
    (∀ attempts : Int, backoff attempts base cap = min (2 ^ (max attempts 0).toNat * base) cap) ∧
      (∀ attempts : Int, 0 < backoff attempts base cap ∧ backoff attempts base cap ≤ cap) ∧
      ∀ fewer more : Int, fewer ≤ more → backoff fewer base cap ≤ backoff more base cap := by
  have window := backoff_eq_window basePos baseFits capPos capFits
  refine ⟨window, fun attempts => ?_, fun fewer more ordered => ?_⟩
  · rw [window]
    exact ⟨backoffWindow_pos basePos capPos attempts, backoffWindow_le attempts⟩
  · rw [window, window]
    exact backoffWindow_mono basePos ordered

/-- A base whose double does not fit any more, and the largest cap. -/
theorem backoff_saturates_at_overflow :
    backoff 1 (2 ^ 62) (2 ^ 63 - 1) = 2 ^ 63 - 1 ∧ wrap64 (2 ^ 62 * 2) = -2 ^ 63 := by
  have saturated := backoff_saturates (show (0 : Int) < 2 ^ 62 by decide) (by decide)
    (show (0 : Int) < 2 ^ 63 - 1 by decide) (by decide)
  exact ⟨(saturated.1 1).trans (by decide), by decide⟩

end NetLatencyMonitor.Spool
