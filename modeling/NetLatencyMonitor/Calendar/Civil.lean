import Mathlib.Algebra.Group.Int.Defs

/-! The proleptic Gregorian calendar as the package `time` computes it: a day number into a
year, a month and a day, and back. Day 0 is January 1 of year 1. -/

namespace NetLatencyMonitor.Calendar

structure Date where
  year : Int
  month : Nat
  day : Nat
deriving DecidableEq, Repr

def isLeap (year : Int) : Bool := year % 4 == 0 && (year % 100 != 0 || year % 400 == 0)

/-- The days before January 1. -/
def daysBeforeYear (year : Int) : Int := 365 * (year - 1) + (year - 1) / 4 - (year - 1) / 100 + (year - 1) / 400

/-- The days of a year before a month. -/
def daysBeforeMonth (leap : Bool) (month : Nat) : Nat :=
  let days := [0, 0, 31, 59, 90, 120, 151, 181, 212, 243, 273, 304, 334].getD month 365
  if leap && 3 ≤ month then days + 1 else days

def daysIn (leap : Bool) (month : Nat) : Nat := daysBeforeMonth leap (month + 1) - daysBeforeMonth leap month

/-- The year of a day and the number of the day in it: cycles of 400, 100, 4 and 1 years are
cut off, where the last century of a cycle and the last year of a leap cycle are longer. -/
def yearOf (days : Int) : Int × Int :=
  let cycles := days / 146097
  let days := days - 146097 * cycles
  let centuries := days / 36524 - days / 36524 / 4
  let days := days - 36524 * centuries
  let leaps := days / 1461
  let days := days - 1461 * leaps
  let years := days / 365 - days / 365 / 4
  (400 * cycles + 100 * centuries + 4 * leaps + years + 1, days - 365 * years)

/-- The month and the day of a day of the year: the 31-day guess is at most one month short. -/
def monthOf (leap : Bool) (yearDay : Nat) : Nat × Nat :=
  if leap && yearDay == 59 then (2, 29)
  else
    let day := if leap && 59 < yearDay then yearDay - 1 else yearDay
    let month := day / 31 + 1
    if daysBeforeMonth false (month + 1) ≤ day then (month + 1, day - daysBeforeMonth false (month + 1) + 1)
    else (month, day - daysBeforeMonth false month + 1)

def dateOf (days : Int) : Date where
  year := (yearOf days).1
  month := (monthOf (isLeap (yearOf days).1) (yearOf days).2.toNat).1
  day := (monthOf (isLeap (yearOf days).1) (yearOf days).2.toNat).2

/-- What `time.Date` makes of a date. -/
def daysOf (date : Date) : Int :=
  daysBeforeYear date.year + daysBeforeMonth (isLeap date.year) date.month + (date.day - 1)

structure Date.Valid (date : Date) : Prop where
  month : 1 ≤ date.month ∧ date.month ≤ 12
  day : 1 ≤ date.day ∧ date.day ≤ daysIn (isLeap date.year) date.month

def yearLength (leap : Bool) : Nat := if leap then 366 else 365

private theorem isLeap_iff (year : Int) : isLeap year = true ↔ year % 4 = 0 ∧ (year % 100 ≠ 0 ∨ year % 400 = 0) := by
  simp [isLeap]

/-- A quotient goes up at the multiples of its divisor. -/
theorem ediv_pred (number : Int) :
    number / 4 = (number - 1) / 4 + (if number % 4 = 0 then 1 else 0) ∧
      number / 100 = (number - 1) / 100 + (if number % 100 = 0 then 1 else 0) ∧
      number / 400 = (number - 1) / 400 + (if number % 400 = 0 then 1 else 0) := by
  refine ⟨?_, ?_, ?_⟩
  · split <;> omega
  · split <;> omega
  · split <;> omega

/-- A year ends where the next begins. -/
theorem daysBeforeYear_succ (year : Int) :
    daysBeforeYear (year + 1) = daysBeforeYear year + yearLength (isLeap year) := by
  obtain ⟨fours, hundreds, cycles⟩ := ediv_pred year
  unfold daysBeforeYear yearLength
  rw [Int.add_sub_cancel, fours, hundreds, cycles]
  by_cases leap : isLeap year = true
  · have rule := (isLeap_iff year).mp leap
    rw [if_pos leap, if_pos rule.1]
    rcases rule.2 with ordinary | cycle
    · rw [if_neg ordinary, if_neg (by omega)]
      omega
    · rw [if_pos (by omega), if_pos cycle]
      omega
  · have rule := mt (isLeap_iff year).mpr leap
    rw [if_neg leap]
    by_cases four : year % 4 = 0
    · have hundred : year % 100 = 0 ∧ year % 400 ≠ 0 := by omega
      rw [if_pos four, if_pos hundred.1, if_neg hundred.2]
      omega
    · rw [if_neg four, if_neg (by omega), if_neg (by omega)]
      omega

private theorem daysBeforeYear_mono {first second : Int} (before : first ≤ second) :
    daysBeforeYear first ≤ daysBeforeYear second := by
  unfold daysBeforeYear
  omega

/-! The four cuts of `yearOf`. -/

private theorem century_cut {days : Int} (inside : 0 ≤ days ∧ days < 146097) :
    0 ≤ days / 36524 - days / 36524 / 4 ∧ days / 36524 - days / 36524 / 4 ≤ 3 ∧
      0 ≤ days - 36524 * (days / 36524 - days / 36524 / 4) ∧
      days - 36524 * (days / 36524 - days / 36524 / 4) ≤ 36524 ∧
      (days - 36524 * (days / 36524 - days / 36524 / 4) = 36524 → days / 36524 - days / 36524 / 4 = 3) := by
  omega

private theorem leap_cut {days : Int} (inside : 0 ≤ days ∧ days ≤ 36524) :
    0 ≤ days / 1461 ∧ days / 1461 ≤ 24 ∧ 0 ≤ days - 1461 * (days / 1461) ∧ days - 1461 * (days / 1461) ≤ 1460 ∧
      (days - 1461 * (days / 1461) = 1460 → days / 1461 = 24 → days = 36524) := by
  omega

private theorem year_cut {days : Int} (inside : 0 ≤ days ∧ days ≤ 1460) :
    0 ≤ days / 365 - days / 365 / 4 ∧ days / 365 - days / 365 / 4 ≤ 3 ∧
      0 ≤ days - 365 * (days / 365 - days / 365 / 4) ∧ days - 365 * (days / 365 - days / 365 / 4) ≤ 365 ∧
      (days - 365 * (days / 365 - days / 365 / 4) = 365 → days / 365 - days / 365 / 4 = 3 ∧ days = 1460) := by
  omega

/-- The quotients of a year that is put together from its cycles. -/
theorem ediv_cycles {cycles centuries leaps years : Int} (centuriesIn : 0 ≤ centuries ∧ centuries ≤ 3)
    (leapsIn : 0 ≤ leaps ∧ leaps ≤ 24) (yearsIn : 0 ≤ years ∧ years ≤ 3) :
    (400 * cycles + 100 * centuries + 4 * leaps + years) / 4 = 100 * cycles + 25 * centuries + leaps ∧
      (400 * cycles + 100 * centuries + 4 * leaps + years) / 100 = 4 * cycles + centuries ∧
      (400 * cycles + 100 * centuries + 4 * leaps + years) / 400 = cycles := by
  omega

/-- The year that is put together is a leap year when all three of its four are over, but for
the last year of a century that is not the last. -/
theorem isLeap_cycles {cycles centuries leaps : Int} (leapsIn : 0 ≤ leaps ∧ leaps ≤ 24)
    (long : leaps = 24 → centuries = 3) :
    isLeap (400 * cycles + 100 * centuries + 4 * leaps + 3 + 1) = true := by
  rw [isLeap_iff]
  omega

private theorem yearOf_spec (days : Int) :
    days = daysBeforeYear (yearOf days).1 + (yearOf days).2 ∧ 0 ≤ (yearOf days).2 ∧
      (yearOf days).2 < yearLength (isLeap (yearOf days).1) := by
  unfold yearOf
  simp only
  have inside : 0 ≤ days - 146097 * (days / 146097) ∧ days - 146097 * (days / 146097) < 146097 := by omega
  generalize days / 146097 = cycles at inside ⊢
  obtain ⟨noCentury, fewCenturies, noDay, fewDays, lastCentury⟩ := century_cut inside
  generalize (days - 146097 * cycles) / 36524 - (days - 146097 * cycles) / 36524 / 4 = centuries at *
  obtain ⟨noLeap, fewLeaps, noDay, fewDays, lastLeap⟩ := leap_cut ⟨noDay, fewDays⟩
  generalize (days - 146097 * cycles - 36524 * centuries) / 1461 = leaps at *
  obtain ⟨noYear, fewYears, noDay, fewDays, lastYear⟩ := year_cut ⟨noDay, fewDays⟩
  generalize (days - 146097 * cycles - 36524 * centuries - 1461 * leaps) / 365 -
    (days - 146097 * cycles - 36524 * centuries - 1461 * leaps) / 365 / 4 = years at *
  obtain ⟨fours, hundreds, rounds⟩ := @ediv_cycles cycles centuries leaps years ⟨noCentury, fewCenturies⟩
    ⟨noLeap, fewLeaps⟩ ⟨noYear, fewYears⟩
  refine ⟨?_, noDay, ?_⟩
  · unfold daysBeforeYear
    rw [Int.add_sub_cancel, fours, hundreds, rounds]
    omega
  · by_cases last : days - 146097 * cycles - 36524 * centuries - 1461 * leaps - 365 * years = 365
    · obtain ⟨rfl, whole⟩ := lastYear last
      have leap := @isLeap_cycles cycles centuries leaps ⟨noLeap, fewLeaps⟩
        (fun all => lastCentury (lastLeap whole all))
      rw [leap, last]
      decide
    · unfold yearLength
      split
      · omega
      · omega

/-! Months. -/

private theorem monthOf_spec (leap : Bool) {yearDay : Nat} (inside : yearDay < yearLength leap) :
    (1 ≤ (monthOf leap yearDay).1 ∧ (monthOf leap yearDay).1 ≤ 12) ∧
      (1 ≤ (monthOf leap yearDay).2 ∧ (monthOf leap yearDay).2 ≤ daysIn leap (monthOf leap yearDay).1) ∧
      yearDay + 1 = daysBeforeMonth leap (monthOf leap yearDay).1 + (monthOf leap yearDay).2 := by
  revert yearDay
  cases leap with
  | false =>
    show ∀ yearDay < 365, _
    decide +kernel
  | true =>
    show ∀ yearDay < 366, _
    decide +kernel

private theorem daysBeforeMonth_step (leap : Bool) {month next : Nat} (first : 1 ≤ month) (later : month < next)
    (last : next ≤ 12) :
    daysBeforeMonth leap month + daysIn leap month ≤ daysBeforeMonth leap next := by
  have all : ∀ leap : Bool, ∀ next < 13, ∀ month < next, 1 ≤ month →
      daysBeforeMonth leap month + daysIn leap month ≤ daysBeforeMonth leap next := by
    decide
  exact all leap next (Nat.lt_succ_of_le last) month later first

private theorem daysBeforeMonth_last (leap : Bool) {month : Nat} (first : 1 ≤ month) (last : month ≤ 12) :
    daysBeforeMonth leap month + daysIn leap month ≤ yearLength leap := by
  have all : ∀ leap : Bool, ∀ month < 13, 1 ≤ month →
      daysBeforeMonth leap month + daysIn leap month ≤ yearLength leap := by
    decide
  exact all leap month (Nat.lt_succ_of_le last) first

theorem dateOf_valid (days : Int) : (dateOf days).Valid := by
  obtain ⟨_, nonneg, inside⟩ := yearOf_spec days
  obtain ⟨month, day, _⟩ := monthOf_spec (isLeap (yearOf days).1) (show (yearOf days).2.toNat < _ by omega)
  exact ⟨month, day⟩

/-- A date gives its day back. -/
theorem daysOf_dateOf (days : Int) : daysOf (dateOf days) = days := by
  obtain ⟨whole, nonneg, inside⟩ := yearOf_spec days
  obtain ⟨_, _, split⟩ := monthOf_spec (isLeap (yearOf days).1) (show (yearOf days).2.toNat < _ by omega)
  unfold daysOf dateOf
  simp only
  omega

/-- One date is earlier than another. -/
def Date.Before (first second : Date) : Prop :=
  first.year < second.year ∨ first.year = second.year ∧
    (first.month < second.month ∨ first.month = second.month ∧ first.day < second.day)

theorem daysOf_lt_of_before {first second : Date} (valid : first.Valid) (other : second.Valid)
    (before : first.Before second) : daysOf first < daysOf second := by
  obtain ⟨month, day⟩ := valid
  obtain ⟨otherMonth, otherDay⟩ := other
  have within := daysBeforeMonth_last (isLeap first.year) month.1 month.2
  unfold daysOf
  rcases before with earlier | ⟨same, earlier | ⟨sameMonth, earlier⟩⟩
  · have next := daysBeforeYear_succ first.year
    have mono := @daysBeforeYear_mono (first.year + 1) second.year (by omega)
    omega
  · have step := daysBeforeMonth_step (isLeap first.year) month.1 earlier otherMonth.2
    rw [← same]
    omega
  · rw [← same, ← sameMonth]
    omega

end NetLatencyMonitor.Calendar
