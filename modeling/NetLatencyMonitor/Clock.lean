import Mathlib.Algebra.Group.Int.Defs
import Mathlib.Algebra.Group.Nat.Defs
import Mathlib.Data.Int.Basic

/-! Instants and durations in nanoseconds, and the whole seconds that SQLite's
`CURRENT_TIMESTAMP` and the layout `2006-01-02 15:04:05` keep of them. -/

namespace NetLatencyMonitor.Clock

/-- Nanoseconds since the Unix epoch, UTC. -/
abbrev Time := Int

abbrev Duration := Int

/-- A DATETIME column: whole seconds since the Unix epoch, UTC. -/
abbrev SqlTime := Int

def second : Duration := 1000000000

def millisecond : Duration := 1000000

/-- `t.UTC().Format("2006-01-02 15:04:05")`, and what `CURRENT_TIMESTAMP` reads at `t`. -/
def toSql (time : Time) : SqlTime := time / second

/-- The zero `time.Time`, January 1 of year 1. -/
def zeroTime : Time := -62135596800 * second

/-- What `time.Now` returns: an instant after the zero `time.Time`. -/
abbrev Reading := { time : Time // zeroTime < time }

/-- A stored time is the instant rounded down. -/
theorem toSql_le (time : Int) : toSql time * second ≤ time := by
  show time / (1000000000 : Int) * 1000000000 ≤ time
  omega

theorem lt_toSql (time : Int) : time - second < toSql time * second := by
  show time - (1000000000 : Int) < time / (1000000000 : Int) * 1000000000
  omega

theorem toSql_mono {earlier later : Int} (ordered : earlier ≤ later) : toSql earlier ≤ toSql later :=
  Int.ediv_le_ediv (by decide) ordered

/-- A window counted from the stored time ends less than a second early, and not late. -/
theorem window_end_lt {marked window now : Int} (ended : toSql marked * second + window ≤ now) :
    marked + window - second < now := by
  have early : marked - second + window < now :=
    Int.lt_of_lt_of_le (Int.add_lt_add_right (lt_toSql marked) window) ended
  rw [Int.sub_eq_add_neg, Int.add_right_comm, ← Int.sub_eq_add_neg]
  exact early

theorem window_end_le {marked window now : Int} (ended : marked + window ≤ now) :
    toSql marked * second + window ≤ now :=
  Int.le_trans (Int.add_le_add_right (toSql_le marked) window) ended

/-! `int64` arithmetic, which durations share. -/

/-- What an `int64` keeps of a result: it wraps around. -/
def wrap64 (value : Int) : Int := Int.bmod value (2 ^ 64)

/-- Only what fits is kept. -/
theorem wrap64_eq_self_iff {value : Int} : wrap64 value = value ↔ -2 ^ 63 ≤ value ∧ value < 2 ^ 63 := by
  unfold wrap64
  rw [Int.bmod_def]
  omega

theorem wrap64_of_fits {value : Int} (above : 0 < value) (below : value < 2 ^ 63) : wrap64 value = value :=
  wrap64_eq_self_iff.mpr ⟨by omega, below⟩

theorem wrap64_lt (value : Int) : wrap64 value < 2 ^ 63 := by
  unfold wrap64
  have := Int.bmod_lt (x := value) (m := 2 ^ 64) (by decide)
  omega

/-- A positive number of seconds is exact as a duration up to 292 years. -/
theorem wrap64_seconds_iff {seconds : Int} (positive : 0 < seconds) :
    wrap64 (seconds * second) = seconds * second ↔ seconds ≤ 9223372036 := by
  rw [wrap64_eq_self_iff, show second = (1000000000 : Int) from rfl]
  omega

/-! Moving an instant across a bound on an age. -/

end NetLatencyMonitor.Clock
