import Mathlib.Algebra.Order.Field.Power
import Mathlib.Algebra.Order.Field.Rat
import Mathlib.Tactic.Linarith
import Mathlib.Tactic.Positivity
import Mathlib.Tactic.Ring

/-! The rationals that `float64` holds, and the nearest of them to an integer. -/

namespace NetLatencyMonitor.Text

/-- A finite `float64`: a significand of 53 bits times a power of two in range. -/
def Representable (value : ℚ) : Prop :=
  ∃ significand exponent : Int, |significand| < 2 ^ 53 ∧ -1074 ≤ exponent ∧ exponent ≤ 971 ∧
    value = significand * 2 ^ exponent

/-- The nearest number with a significand of 53 bits; a tie goes to the even one. -/
def roundToBits (n : Nat) : Nat :=
  let unit := 2 ^ (Nat.log2 n - 52)
  let down := n / unit * unit
  if 2 * (n % unit) < unit then down
  else if unit < 2 * (n % unit) then down + unit
  else if n / unit % 2 = 0 then down else down + unit

/-- `float64(n)`. -/
def floatOfInt (n : Int) : ℚ := if n < 0 then -(roundToBits n.natAbs : ℚ) else (roundToBits n.natAbs : ℚ)

theorem representable_zero : Representable 0 := ⟨0, 0, by norm_num⟩

theorem representable_one : Representable 1 := ⟨1, 0, by norm_num⟩

/-- The unit of the significand's last bit. -/
private def lastBit (n : Nat) : Nat := 2 ^ (Nat.log2 n - 52)

private theorem lastBit_pos (n : Nat) : 0 < lastBit n := Nat.two_pow_pos _

private theorem roundToBits_eq (n : Nat) :
    roundToBits n = n / lastBit n * lastBit n ∨ roundToBits n = n / lastBit n * lastBit n + lastBit n := by
  unfold roundToBits lastBit
  simp only
  split
  · exact .inl rfl
  split
  · exact .inr rfl
  split
  · exact .inl rfl
  · exact .inr rfl

/-- A number that is not rounded up is cut off behind its last bit. -/
private theorem roundToBits_of_le {n : Nat} (down : roundToBits n ≤ n) :
    roundToBits n = n / lastBit n * lastBit n := by
  refine (roundToBits_eq n).resolve_right (fun up => ?_)
  have above : n < n / lastBit n * lastBit n + lastBit n := Nat.lt_div_mul_add (lastBit_pos n)
  omega

private theorem div_lastBit_lt (n : Nat) : n / lastBit n < 2 ^ 53 := by
  rw [Nat.div_lt_iff_lt_mul (lastBit_pos n), lastBit, ← Nat.pow_add]
  exact lt_of_lt_of_le Nat.lt_log2_self (Nat.pow_le_pow_right (by decide) (by omega))

/-- From 2^53 on the significand has all of its bits. -/
private theorem le_div_lastBit {n : Nat} (large : 52 ≤ Nat.log2 n) : 2 ^ 52 ≤ n / lastBit n := by
  have nonzero : n ≠ 0 := by
    rintro rfl
    simp at large
  rw [Nat.le_div_iff_mul_le (lastBit_pos n), lastBit, ← Nat.pow_add, Nat.add_sub_cancel' large]
  exact Nat.log2_self_le nonzero

private theorem lastBit_eq_one {n : Nat} (small : Nat.log2 n ≤ 52) : lastBit n = 1 := by
  rw [lastBit, Nat.sub_eq_zero_of_le small, Nat.pow_zero]

theorem roundToBits_pos {n : Nat} (positive : 0 < n) : 0 < roundToBits n := by
  have significant : 0 < n / lastBit n := by
    by_cases large : 52 ≤ Nat.log2 n
    · exact lt_of_lt_of_le (by decide) (le_div_lastBit large)
    · rw [lastBit_eq_one (by omega), Nat.div_one]
      exact positive
  have down := Nat.mul_pos significant (lastBit_pos n)
  rcases roundToBits_eq n with same | same
  · omega
  · omega

/-- A significand of 2^53 is one of 2^52 with the next exponent. -/
private theorem representable_natMul {significand exponent : Nat} (bits : significand ≤ 2 ^ 53)
    (range : exponent ≤ 970) :
    Representable ((significand * 2 ^ exponent : Nat) : ℚ) := by
  rcases Nat.lt_or_eq_of_le bits with below | rfl
  · refine ⟨significand, exponent, ?_, by omega, by omega, by push_cast; rfl⟩
    rw [Nat.abs_cast]
    exact_mod_cast below
  · refine ⟨2 ^ 52, (exponent + 1 : Nat), by norm_num, by omega, by omega, ?_⟩
    rw [zpow_natCast, pow_succ]
    push_cast
    ring

/-- `float64(n)` is a `float64`. -/
theorem representable_roundToBits {n : Nat} (fits : n < 2 ^ 64) : Representable (roundToBits n) := by
  have range : Nat.log2 n - 52 ≤ 970 := by
    have short : Nat.log2 n < 64 := by
      by_cases zero : n = 0
      · simp [zero]
      · exact (Nat.log2_lt zero).mpr fits
    omega
  have bits := div_lastBit_lt n
  rcases roundToBits_eq n with same | same
  · rw [same]
    exact representable_natMul (le_of_lt bits) range
  · rw [same, ← Nat.succ_mul]
    exact representable_natMul bits range

/-- A multiple of the last bit is not beyond the number when that is cut off behind the bit. -/
private theorem multiple_le {significand : Int} {more n : Nat}
    (below : (significand : ℚ) * 2 ^ (((Nat.log2 n - 52 : Nat) : Int) + more) ≤ n) :
    (significand : ℚ) * 2 ^ (((Nat.log2 n - 52 : Nat) : Int) + more) ≤ ((n / lastBit n * lastBit n : Nat) : ℚ) := by
  have multiple : (significand : ℚ) * 2 ^ (((Nat.log2 n - 52 : Nat) : Int) + more) =
      ((significand * 2 ^ more * lastBit n : Int) : ℚ) := by
    rw [zpow_add₀ (by norm_num), zpow_natCast, zpow_natCast, lastBit]
    push_cast
    ring
  rw [multiple] at below ⊢
  have unit : (0 : Int) < lastBit n := by exact_mod_cast lastBit_pos n
  have whole : significand * 2 ^ more * lastBit n ≤ n := by exact_mod_cast below
  have cut : significand * 2 ^ more ≤ n / lastBit n := (Int.le_ediv_iff_mul_le unit).mpr whole
  have scaled := Int.mul_le_mul_of_nonneg_right cut (le_of_lt unit)
  calc ((significand * 2 ^ more * lastBit n : Int) : ℚ)
      ≤ ((n / lastBit n * lastBit n : Int) : ℚ) := Int.cast_le.mpr scaled
    _ = ((n / lastBit n * lastBit n : Nat) : ℚ) := by norm_cast

/-- What is finer than the last bit lies below the least number with that bit. -/
private theorem finer_le {significand exponent : Int} {n : Nat} (bits : |significand| < 2 ^ 53)
    (large : 52 ≤ Nat.log2 n) (fine : exponent < ((Nat.log2 n - 52 : Nat) : Int)) :
    (significand : ℚ) * 2 ^ exponent ≤ ((n / lastBit n * lastBit n : Nat) : ℚ) := by
  have short : (significand : ℚ) ≤ 2 ^ 53 := by exact_mod_cast le_of_lt (lt_of_abs_lt bits)
  have finer : (2 : ℚ) ^ exponent ≤ 2 ^ (((Nat.log2 n - 52 : Nat) : Int) - 1) :=
    zpow_le_zpow_right₀ (by norm_num) (by omega)
  have full : (2 ^ 52 * lastBit n : ℚ) ≤ ((n / lastBit n * lastBit n : Nat) : ℚ) := by
    exact_mod_cast Nat.mul_le_mul_right (lastBit n) (le_div_lastBit large)
  calc (significand : ℚ) * 2 ^ exponent
      ≤ 2 ^ 53 * 2 ^ exponent := by gcongr
    _ ≤ 2 ^ 53 * 2 ^ (((Nat.log2 n - 52 : Nat) : Int) - 1) := by gcongr
    _ = 2 ^ 52 * lastBit n := by
      rw [zpow_sub₀ (by norm_num), zpow_natCast, lastBit]
      push_cast
      ring
    _ ≤ _ := full

/-- Below a number that is rounded down there is no `float64` but those up to what it is rounded to. -/
theorem le_roundToBits {value : ℚ} (held : Representable value) {n : Nat} (below : value ≤ n)
    (down : roundToBits n ≤ n) : value ≤ roundToBits n := by
  obtain ⟨significand, exponent, bits, _, _, rfl⟩ := held
  rw [roundToBits_of_le down]
  by_cases coarse : ((Nat.log2 n - 52 : Nat) : Int) ≤ exponent
  · obtain ⟨more, rfl⟩ := Int.le.dest coarse
    exact multiple_le below
  by_cases small : Nat.log2 n ≤ 52
  · rw [lastBit_eq_one small, Nat.div_one, Nat.mul_one]
    exact below
  · exact finer_le bits (by omega) (by omega)

end NetLatencyMonitor.Text
