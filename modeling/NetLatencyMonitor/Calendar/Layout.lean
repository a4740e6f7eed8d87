import Mathlib.Data.Nat.Log
import NetLatencyMonitor.Calendar.Civil
import NetLatencyMonitor.Text.Digits

/-! Instants as text: `Time.Format` and `time.ParseInLocation` for the layouts of dates and
times in figures. Times are in seconds since the Unix epoch, and in nanoseconds when parsed. In the
years 0 to 9999 the texts of one layout compare as the instants do. -/

namespace NetLatencyMonitor.Calendar

open Text

/-- A second of UTC. -/
structure Moment where
  date : Date
  hour : Nat
  minute : Nat
  sec : Nat
deriving DecidableEq, Repr

/-- The days before the Unix epoch. -/
def unixDays : Int := 719162

def momentOf (time : Int) : Moment where
  date := dateOf (time / 86400 + unixDays)
  hour := (time % 86400).toNat / 3600
  minute := (time % 86400).toNat % 3600 / 60
  sec := (time % 86400).toNat % 60

def secondsOf (moment : Moment) : Int :=
  (daysOf moment.date - unixDays) * 86400 + moment.hour * 3600 + moment.minute * 60 + moment.sec

/-! Formatting. -/

/-- `appendInt`: a sign, and at least as many digits as the width. -/
def appendInt (number : Int) (width : Nat) : GoString :=
  (if number < 0 then [0x2d] else []) ++ digits (max width (Nat.log 10 number.natAbs + 1)) number.natAbs

/-- The layout `2006-01-02 15:04:05` with a byte of one's own between date and time. -/
def Moment.format (moment : Moment) (separator : UInt8) : GoString :=
  appendInt moment.date.year 4 ++ 0x2d :: digits 2 moment.date.month ++ 0x2d :: digits 2 moment.date.day ++
    separator :: digits 2 moment.hour ++ 0x3a :: digits 2 moment.minute ++ 0x3a :: digits 2 moment.sec

/-- `Format("2006-01-02 15:04:05")`, and what SQLite writes for `CURRENT_TIMESTAMP`. -/
def stamp (time : Int) : GoString := (momentOf time).format 0x20

/-- `Format(time.RFC3339Nano)` of a whole second of UTC. -/
def stampRFC3339 (time : Int) : GoString := (momentOf time).format 0x54 ++ [0x5a]

/-! Parsing. -/

/-- The parts of a layout. -/
inductive Chunk where
  | literal (byte : UInt8)
  | longYear
  | zeroMonth
  | zeroDay
  | hour
  | zeroMinute
  | zeroSecond
  | fraction
  | zone
deriving DecidableEq, Repr

/-- `2006-01-02 15:04:05`. -/
def sqliteLayout : List Chunk :=
  [.longYear, .literal 0x2d, .zeroMonth, .literal 0x2d, .zeroDay, .literal 0x20, .hour, .literal 0x3a, .zeroMinute,
    .literal 0x3a, .zeroSecond]

/-- `2006-01-02 15:04:05.999999999`. -/
def sqliteLayoutNano : List Chunk := sqliteLayout ++ [.fraction]

/-- `time.RFC3339`. -/
def rfc3339 : List Chunk :=
  [.longYear, .literal 0x2d, .zeroMonth, .literal 0x2d, .zeroDay, .literal 0x54, .hour, .literal 0x3a, .zeroMinute,
    .literal 0x3a, .zeroSecond, .zone]

/-- `time.RFC3339Nano`. -/
def rfc3339Nano : List Chunk :=
  [.longYear, .literal 0x2d, .zeroMonth, .literal 0x2d, .zeroDay, .literal 0x54, .hour, .literal 0x3a, .zeroMinute,
    .literal 0x3a, .zeroSecond, .fraction, .zone]

structure Fields where
  moment : Moment := ⟨⟨0, 0, 0⟩, 0, 0, 0⟩
  nanos : Nat := 0
  /-- Seconds east of UTC. -/
  offset : Int := 0
deriving DecidableEq, Repr

/-- `skip` over one byte of a layout: a blank stands for any number of them, but not for none
in front of something else. -/
def skipByte (byte : UInt8) : GoString → Option GoString
  | [] => if byte = 0x20 then some [] else none
  | first :: rest =>
    if first ≠ byte then none
    else if byte = 0x20 then some (rest.dropWhile (fun next => next == 0x20))
    else some rest

/-- `getnum`: two digits, or one where the layout does not ask for two. -/
def getnum (fixed : Bool) : GoString → Option (Nat × GoString)
  | [] => none
  | [first] => if isDigitByte first && !fixed then some (first.toNat - 0x30, []) else none
  | first :: second :: rest =>
    if !isDigitByte first then none
    else if isDigitByte second then some ((first.toNat - 0x30) * 10 + (second.toNat - 0x30), rest)
    else if fixed then none
    else some (first.toNat - 0x30, second :: rest)

/-- `parseNanoseconds`: nine digits count. -/
def nanoseconds (figures : GoString) : Nat :=
  (digitsValue (figures.take 9)).getD 0 * 10 ^ (9 - (figures.take 9).length)

/-- A fraction of a second in front of the text, if there is one. -/
def takeFraction : GoString → Nat × GoString
  | point :: first :: rest =>
    if (point == 0x2e || point == 0x2c) && isDigitByte first then
      (nanoseconds ((first :: rest).takeWhile isDigitByte), (first :: rest).dropWhile isDigitByte)
    else (0, point :: first :: rest)
  | text => (0, text)

/-- `Z`, or a sign, hours and minutes. -/
def takeZone : GoString → Option (Int × GoString)
  | 0x5a :: rest => some (0, rest)
  | sign :: hourTen :: hourOne :: 0x3a :: minuteTen :: minuteOne :: rest =>
    match getnum true [hourTen, hourOne], getnum true [minuteTen, minuteOne] with
    | some (hours, _), some (minutes, _) =>
      if 24 < hours ∨ 60 < minutes then none
      else if sign = 0x2b then some (((hours * 60 + minutes) * 60 : Nat), rest)
      else if sign = 0x2d then some (-((hours * 60 + minutes) * 60 : Nat), rest)
      else none
    | _, _ => none
  | _ => none

/-- One part of the layout, with the parts behind it. -/
def parseChunk (chunk : Chunk) (behind : List Chunk) (fields : Fields) (text : GoString) :
    Option (Fields × GoString) :=
  match chunk with
  | .literal byte => (skipByte byte text).map (fun rest => (fields, rest))
  | .longYear =>
    if text.length < 4 then none
    else (digitsValue (text.take 4)).map (fun (year : Nat) =>
      ({ fields with moment.date.year := (year : Int) }, text.drop 4))
  | .zeroMonth => (getnum true text).bind (fun (month, rest) =>
    if month = 0 ∨ 12 < month then none else some ({ fields with moment.date.month := month }, rest))
  | .zeroDay => (getnum true text).map (fun (day, rest) => ({ fields with moment.date.day := day }, rest))
  | .hour => (getnum false text).bind (fun (hour, rest) =>
    if 24 ≤ hour then none else some ({ fields with moment.hour := hour }, rest))
  | .zeroMinute => (getnum true text).bind (fun (minute, rest) =>
    if 60 ≤ minute then none else some ({ fields with moment.minute := minute }, rest))
  | .zeroSecond => (getnum true text).bind (fun (sec, rest) =>
    if 60 ≤ sec then none
    else if behind.head? = some .fraction then some ({ fields with moment.sec := sec }, rest)
    -- a fraction is read even where the layout has none
    else some ({ fields with moment.sec := sec, nanos := (takeFraction rest).1 }, (takeFraction rest).2))
  | .fraction => some ({ fields with nanos := (takeFraction text).1 }, (takeFraction text).2)
  | .zone => (takeZone text).map (fun (offset, rest) => ({ fields with offset }, rest))

def parseChunks : List Chunk → Fields → GoString → Option Fields
  | [], fields, text => if text = [] then some fields else none
  | chunk :: behind, fields, text =>
    (parseChunk chunk behind fields text).bind (fun (fields, rest) => parseChunks behind fields rest)

/-- The instant in nanoseconds, if the month has the day. -/
def Fields.time (fields : Fields) : Option Int :=
  if fields.moment.date.day < 1 ∨
      daysIn (isLeap fields.moment.date.year) fields.moment.date.month < fields.moment.date.day
  then none
  else some ((secondsOf fields.moment - fields.offset) * 1000000000 + fields.nanos)

/-- `time.ParseInLocation(layout, text, time.UTC)`. -/
def parseInUTC (layout : List Chunk) (text : GoString) : Option Int := (parseChunks layout {} text).bind Fields.time

/-! The moment of a second. -/

private theorem momentOf_bounds (time : Int) :
    (momentOf time).date.Valid ∧ (momentOf time).hour < 24 ∧ (momentOf time).minute < 60 ∧
      (momentOf time).sec < 60 := by
  refine ⟨dateOf_valid _, ?_, ?_, ?_⟩
  · show (time % 86400).toNat / 3600 < 24
    omega
  · show (time % 86400).toNat % 3600 / 60 < 60
    omega
  · show (time % 86400).toNat % 60 < 60
    omega

private theorem secondsOf_momentOf (time : Int) : secondsOf (momentOf time) = time := by
  unfold secondsOf momentOf
  simp only [daysOf_dateOf]
  have day := Int.mul_ediv_add_emod time 86400
  have nonneg : 0 ≤ time % 86400 := Int.emod_nonneg time (by decide)
  generalize time % 86400 = left at *
  generalize time / 86400 = days at *
  omega

/-- One moment is earlier than another. -/
def Moment.Before (first second : Moment) : Prop :=
  first.date.Before second.date ∨ first.date = second.date ∧
    (first.hour < second.hour ∨ first.hour = second.hour ∧
      (first.minute < second.minute ∨ first.minute = second.minute ∧ first.sec < second.sec))

theorem Date.before_trichotomy (first second : Date) :
    first.Before second ∨ first = second ∨ second.Before first := by
  obtain ⟨year, month, day⟩ := first
  obtain ⟨otherYear, otherMonth, otherDay⟩ := second
  simp only [Date.Before, Date.mk.injEq]
  omega

theorem Moment.before_trichotomy (first second : Moment) :
    first.Before second ∨ first = second ∨ second.Before first := by
  obtain ⟨date, hour, minute, sec⟩ := first
  obtain ⟨otherDate, otherHour, otherMinute, otherSec⟩ := second
  simp only [Moment.Before, Moment.mk.injEq]
  rcases Date.before_trichotomy date otherDate with earlier | rfl | later
  · exact .inl (.inl earlier)
  · simp only [true_and]
    rcases Nat.lt_trichotomy hour otherHour with less | rfl | more
    · exact .inl (.inr (.inl less))
    · rcases Nat.lt_trichotomy minute otherMinute with less | rfl | more
      · exact .inl (.inr (.inr ⟨rfl, .inl less⟩))
      · rcases Nat.lt_trichotomy sec otherSec with less | same | more
        · exact .inl (.inr (.inr ⟨rfl, .inr ⟨rfl, less⟩⟩))
        · exact .inr (.inl ⟨rfl, rfl, same⟩)
        · exact .inr (.inr (.inr (.inr ⟨rfl, .inr ⟨rfl, more⟩⟩)))
      · exact .inr (.inr (.inr (.inr ⟨rfl, .inl more⟩)))
    · exact .inr (.inr (.inr (.inl more)))
  · exact .inr (.inr (.inl later))

theorem lt_of_before {first second : Int} (before : (momentOf first).Before (momentOf second)) : first < second := by
  obtain ⟨valid, hour, minute, sec⟩ := momentOf_bounds first
  obtain ⟨otherValid, _, _, _⟩ := momentOf_bounds second
  have left := secondsOf_momentOf first
  have right := secondsOf_momentOf second
  unfold secondsOf at left right
  rcases before with earlier | ⟨same, later⟩
  · have days := daysOf_lt_of_before valid otherValid earlier
    omega
  · rw [same] at left
    omega

private theorem before_iff_lt {first second : Int} : (momentOf first).Before (momentOf second) ↔ first < second := by
  refine ⟨lt_of_before, fun less => ?_⟩
  rcases Moment.before_trichotomy (momentOf first) (momentOf second) with before | same | behind
  · exact before
  · have equal : first = second := by rw [← secondsOf_momentOf first, same, secondsOf_momentOf]
    exact absurd equal (Int.ne_of_lt less)
  · exact absurd (lt_of_before behind) (Int.not_lt.mpr (Int.le_of_lt less))

/-! Texts of four-digit years. -/

/-- In the years 0 to 9999. -/
def Dated (time : Int) : Prop := 0 ≤ (momentOf time).date.year ∧ (momentOf time).date.year ≤ 9999

instance (time : Int) : Decidable (Dated time) := inferInstanceAs (Decidable (_ ∧ _))

private theorem appendInt_year {year : Int} (within : 0 ≤ year ∧ year ≤ 9999) :
    appendInt year 4 = digits 4 year.natAbs := by
  have short : Nat.log 10 year.natAbs + 1 ≤ 4 := by
    have below : Nat.log 10 year.natAbs < 4 := Nat.log_lt_of_lt_pow' (by decide) (by omega)
    omega
  rw [appendInt, if_neg (by omega), Nat.max_eq_left short]
  rfl

/-- The fields take the figures they have in the text. -/
structure Moment.Fits (moment : Moment) : Prop where
  year : 0 ≤ moment.date.year ∧ moment.date.year ≤ 9999
  month : moment.date.month < 10 ^ 2
  day : moment.date.day < 10 ^ 2
  hour : moment.hour < 10 ^ 2
  minute : moment.minute < 10 ^ 2
  sec : moment.sec < 10 ^ 2

private theorem daysIn_le (leap : Bool) {month : Nat} (first : 1 ≤ month) (last : month ≤ 12) :
    daysIn leap month ≤ 31 := by
  have all : ∀ leap : Bool, ∀ month < 13, 1 ≤ month → daysIn leap month ≤ 31 := by decide
  exact all leap month (Nat.lt_succ_of_le last) first

theorem fits_momentOf {time : Int} (dated : Dated time) : (momentOf time).Fits := by
  obtain ⟨⟨month, day⟩, hour, minute, sec⟩ := momentOf_bounds time
  have few := daysIn_le (isLeap (momentOf time).date.year) month.1 month.2
  exact ⟨dated, by omega, by omega, by omega, by omega, by omega⟩

/-- A text of the layout, written out. -/
theorem Moment.format_eq {moment : Moment} (fits : moment.Fits) (separator : UInt8) (behind : GoString) :
    moment.format separator ++ behind = digits 4 moment.date.year.natAbs ++ 0x2d :: (digits 2 moment.date.month ++
      0x2d :: (digits 2 moment.date.day ++ separator :: (digits 2 moment.hour ++ 0x3a :: (digits 2 moment.minute ++
        0x3a :: (digits 2 moment.sec ++ behind))))) := by
  rw [Moment.format, appendInt_year fits.year]
  simp only [List.append_assoc, List.cons_append]

/-- Texts of one layout compare as the moments do. -/
theorem Moment.format_lt_iff {first second : Moment} (fits : first.Fits) (other : second.Fits) (separator : UInt8)
    (left right : GoString) :
    collation (first.format separator ++ left) < collation (second.format separator ++ right) ↔
      first.Before second ∨ first = second ∧ collation left < collation right := by
  have yearFits : first.date.year.natAbs < 10 ^ 4 := by
    have := fits.year
    omega
  have otherFits : second.date.year.natAbs < 10 ^ 4 := by
    have := other.year
    omega
  have less : first.date.year.natAbs < second.date.year.natAbs ↔ first.date.year < second.date.year := by
    have := fits.year
    have := other.year
    omega
  have same : first.date.year.natAbs = second.date.year.natAbs ↔ first.date.year = second.date.year := by
    have := fits.year
    have := other.year
    omega
  rw [first.format_eq fits, second.format_eq other, collation_digits_append_lt_iff yearFits otherFits,
    collation_cons_lt_iff, collation_digits_append_lt_iff fits.month other.month, collation_cons_lt_iff,
    collation_digits_append_lt_iff fits.day other.day, collation_cons_lt_iff,
    collation_digits_append_lt_iff fits.hour other.hour, collation_cons_lt_iff,
    collation_digits_append_lt_iff fits.minute other.minute, collation_cons_lt_iff,
    collation_digits_append_lt_iff fits.sec other.sec, less, same]
  obtain ⟨⟨year, month, day⟩, hour, minute, sec⟩ := first
  obtain ⟨⟨otherYear, otherMonth, otherDay⟩, otherHour, otherMinute, otherSec⟩ := second
  simp only [Moment.Before, Date.Before, Moment.mk.injEq, Date.mk.injEq]
  grind

/-- The stored texts of the years 0 to 9999 compare as the seconds do. -/
theorem stamp_lt_iff {first second : Int} (dated : Dated first) (other : Dated second) :
    collation (stamp first) < collation (stamp second) ↔ first < second := by
  have compared := Moment.format_lt_iff (fits_momentOf dated) (fits_momentOf other) 0x20 [] []
  rw [List.append_nil, List.append_nil, before_iff_lt] at compared
  refine compared.trans ⟨?_, .inl⟩
  rintro (less | ⟨_, never⟩)
  · exact less
  · exact absurd never (lt_irrefl _)

/-! Reading them back. -/

private theorem getnum_digits (fixed : Bool) {number : Nat} (fits : number < 10 ^ 2) (rest : GoString) :
    getnum fixed (digits 2 number ++ rest) = some (number, rest) := by
  have tens : number / 10 % 10 < 10 := Nat.mod_lt _ (by decide)
  have ones : number % 10 < 10 := Nat.mod_lt _ (by decide)
  have shape : digits 2 number ++ rest = digitByte (number / 10 % 10) :: digitByte (number % 10) :: rest := by
    simp [digits]
  rw [shape, getnum]
  simp only [isDigitByte_digitByte tens, isDigitByte_digitByte ones, digitByte_toNat tens, digitByte_toNat ones,
    Bool.not_true, Bool.false_eq_true, if_false, if_true]
  exact congrArg (fun value => some (value, rest)) (by omega)

private theorem longYear_digits {behind : List Chunk} {fields : Fields} {year : Int} (within : 0 ≤ year ∧ year ≤ 9999)
    (rest : GoString) :
    parseChunk .longYear behind fields (digits 4 year.natAbs ++ rest) =
      some ({ fields with moment.date.year := year }, rest) := by
  have fits : year.natAbs < 10 ^ 4 := by omega
  have front : (digits 4 year.natAbs ++ rest).take 4 = digits 4 year.natAbs := by
    rw [List.take_append_of_le_length (by simp)]
    exact List.take_of_length_le (by simp)
  have back : (digits 4 year.natAbs ++ rest).drop 4 = rest := List.drop_left' (by simp)
  simp only [parseChunk, front, back, digitsValue_digits fits, Option.map_some]
  rw [if_neg (by simp)]
  have same : ((year.natAbs : Nat) : Int) = year := by omega
  rw [same]

/-- Digits do not begin with a blank. -/
theorem head?_digits_ne (number : Nat) (rest : GoString) : (digits 2 number ++ rest).head? ≠ some 0x20 := by
  have shape : digits 2 number = digitByte (number / 10 % 10) :: [digitByte (number % 10)] := by simp [digits]
  have digit := @isDigitByte_digitByte (number / 10 % 10) (Nat.mod_lt _ (by decide))
  rw [shape]
  intro same
  rw [show digitByte (number / 10 % 10) = 0x20 from Option.some.inj same] at digit
  cases digit

private theorem literal_cons {byte : UInt8} {behind : List Chunk} {fields : Fields} {rest : GoString}
    (solid : byte = 0x20 → rest.head? ≠ some 0x20) :
    parseChunk (.literal byte) behind fields (byte :: rest) = some (fields, rest) := by
  have skipped : skipByte byte (byte :: rest) = some rest := by
    rw [skipByte, if_neg (by simp)]
    split
    · rename_i blank
      have starts := solid blank
      cases rest with
      | nil => rfl
      | cons next others =>
        have other : (next == 0x20) = false := by simpa using starts
        rw [List.dropWhile_cons, other]
        rfl
    · rfl
  simp only [parseChunk, skipped, Option.map_some]

section Chunks

variable {behind : List Chunk} {fields : Fields} {number : Nat} (rest : GoString)

private theorem zeroMonth_digits (month : 1 ≤ number ∧ number ≤ 12) :
    parseChunk .zeroMonth behind fields (digits 2 number ++ rest) =
      some ({ fields with moment.date.month := number }, rest) := by
  simp only [parseChunk, getnum_digits true (show number < 10 ^ 2 by omega), Option.bind_some]
  exact if_neg (by omega)

private theorem zeroDay_digits (day : number < 10 ^ 2) :
    parseChunk .zeroDay behind fields (digits 2 number ++ rest) =
      some ({ fields with moment.date.day := number }, rest) := by
  simp only [parseChunk, getnum_digits true day, Option.map_some]

private theorem hour_digits (hour : number < 24) :
    parseChunk .hour behind fields (digits 2 number ++ rest) = some ({ fields with moment.hour := number }, rest) := by
  simp only [parseChunk, getnum_digits false (show number < 10 ^ 2 by omega), Option.bind_some]
  exact if_neg (by omega)

private theorem zeroMinute_digits (minute : number < 60) :
    parseChunk .zeroMinute behind fields (digits 2 number ++ rest) =
      some ({ fields with moment.minute := number }, rest) := by
  simp only [parseChunk, getnum_digits true (show number < 10 ^ 2 by omega), Option.bind_some]
  exact if_neg (by omega)

/-- Seconds, with no fraction behind them. -/
theorem zeroSecond_digits (sec : number < 60) (whole : takeFraction rest = (0, rest)) (nanos : fields.nanos = 0) :
    parseChunk .zeroSecond behind fields (digits 2 number ++ rest) =
      some ({ fields with moment.sec := number }, rest) := by
  simp only [parseChunk, getnum_digits true (show number < 10 ^ 2 by omega), Option.bind_some]
  rw [if_neg (by omega), whole]
  split
  · rfl
  · simp only [← nanos]

private theorem parseChunks_cons {chunk : Chunk} {text : GoString} {after : Fields} {rest : GoString}
    (parsed : parseChunk chunk behind fields text = some (after, rest)) :
    parseChunks (chunk :: behind) fields text = parseChunks behind after rest := by
  rw [parseChunks, parsed]
  rfl

end Chunks

private theorem takeFraction_nil : takeFraction [] = (0, []) := rfl

private theorem takeFraction_zone : takeFraction [0x5a] = (0, [0x5a]) := rfl

/-- Every layout here begins with the same parts. -/
theorem parse_format {time : Int} (dated : Dated time) (separator : UInt8) (behind : List Chunk) {rest : GoString}
    (whole : takeFraction rest = (0, rest)) :
    parseChunks (.longYear :: .literal 0x2d :: .zeroMonth :: .literal 0x2d :: .zeroDay :: .literal separator :: .hour ::
      .literal 0x3a :: .zeroMinute :: .literal 0x3a :: .zeroSecond :: behind) {}
        ((momentOf time).format separator ++ rest) =
      parseChunks behind { moment := momentOf time } rest := by
  have fits := fits_momentOf dated
  obtain ⟨⟨month, _⟩, hour, minute, sec⟩ := momentOf_bounds time
  have dash : ∀ {rest : GoString}, (0x2d : UInt8) = 0x20 → rest.head? ≠ some 0x20 := fun same => absurd same (by decide)
  have colon : ∀ {rest : GoString}, (0x3a : UInt8) = 0x20 → rest.head? ≠ some 0x20 :=
    fun same => absurd same (by decide)
  rw [(momentOf time).format_eq fits, parseChunks_cons (longYear_digits fits.year _),
    parseChunks_cons (literal_cons dash),
    parseChunks_cons (zeroMonth_digits _ month), parseChunks_cons (literal_cons dash),
    parseChunks_cons (zeroDay_digits _ fits.day), parseChunks_cons (literal_cons (fun _ => head?_digits_ne _ _)),
    parseChunks_cons (hour_digits _ hour), parseChunks_cons (literal_cons colon),
    parseChunks_cons (zeroMinute_digits _ minute), parseChunks_cons (literal_cons colon),
    parseChunks_cons (zeroSecond_digits _ sec whole rfl)]

private theorem time_momentOf (time : Int) : Fields.time { moment := momentOf time } = some (time * 1000000000) := by
  obtain ⟨⟨_, day⟩, _⟩ := momentOf_bounds time
  unfold Fields.time
  simp only [secondsOf_momentOf]
  rw [if_neg (by omega)]
  simp

/-- A stored text is read back as the instant it was written for. -/
theorem parse_stamp {time : Int} (dated : Dated time) :
    parseInUTC sqliteLayout (stamp time) = some (time * 1000000000) := by
  have parsed := parse_format dated 0x20 [] takeFraction_nil
  rw [List.append_nil] at parsed
  show (parseChunks _ {} ((momentOf time).format 0x20)).bind Fields.time = _
  rw [sqliteLayout, parsed, parseChunks, if_pos rfl]
  exact time_momentOf time

example : stamp 951826154 = lit "2000-02-29 12:09:14" ∧
    parseInUTC sqliteLayout (lit "2000-02-29 12:09:14") = some 951826154000000000 := by decide

/-- So is the text of the other layout. -/
theorem parse_stampRFC3339 {time : Int} (dated : Dated time) :
    parseInUTC rfc3339Nano (stampRFC3339 time) = some (time * 1000000000) := by
  have parsed := parse_format dated 0x54 [.fraction, .zone] takeFraction_zone
  show (parseChunks _ {} ((momentOf time).format 0x54 ++ [0x5a])).bind Fields.time = _
  rw [rfc3339Nano, parsed]
  exact time_momentOf time

/-- With a `T` between date and time no layout with a blank fits. -/
theorem parse_blank_none {time : Int} (dated : Dated time) (behind : List Chunk) (rest : GoString) :
    parseInUTC (.longYear :: .literal 0x2d :: .zeroMonth :: .literal 0x2d :: .zeroDay :: .literal 0x20 :: behind)
      ((momentOf time).format 0x54 ++ rest) = none := by
  have fits := fits_momentOf dated
  obtain ⟨⟨month, _⟩, _⟩ := momentOf_bounds time
  have dash : ∀ {rest : GoString}, (0x2d : UInt8) = 0x20 → rest.head? ≠ some 0x20 := fun same => absurd same (by decide)
  rw [parseInUTC, (momentOf time).format_eq fits, parseChunks_cons (longYear_digits fits.year _),
    parseChunks_cons (literal_cons dash), parseChunks_cons (zeroMonth_digits _ month),
    parseChunks_cons (literal_cons dash),
    parseChunks_cons (zeroDay_digits _ fits.day)]
  rfl

end NetLatencyMonitor.Calendar
