import NetLatencyMonitor.Calendar.Layout
import NetLatencyMonitor.Controller.Matrix

/-! The query of the latency matrix on the text that `observed_at` is stored as. A request
names a year of four digits and an offset from UTC, so that the stored year may have five:
such a result sorts as an old one. -/

namespace NetLatencyMonitor.Controller

open Calendar Clock Keyed Text

/-- The year that is written for an instant. -/
def yearStored (time : SqlTime) : Int := (momentOf time).date.year

/-- `observed_at > datetime('now', '-5 minutes')`, as SQLite compares it. -/
def recentText (now : Time) (row : ResultRow) : Bool :=
  decide (collation (stamp (toSql now - 300)) < collation (stamp row.observedAt))

/-- `MAX` of two texts. -/
def laterText (best text : GoString) : GoString := if collation best < collation text then text else best

/-- `MAX(observed_at)`, as SQLite compares it. -/
def latestText : List ResultRow → SqlValue
  | [] => .null
  | first :: rest => .text ((rest.map (fun row => stamp row.observedAt)).foldl laterText (stamp first.observedAt))

def matrixRowText (group : (GoString × GoString) × List ResultRow) : MatrixRow :=
  { matrixRow stamp group with lastSeen := latestText group.2 }

/-- The rows the query returns at an instant. -/
def matrixRowsText (now : Time) (db : DB) : List MatrixRow :=
  (groupBy ResultRow.pair (db.results.rows.filter (recentText now))).map matrixRowText

/-! Years before the first and years of five digits. -/

/-- A sign comes before every digit. -/
theorem collation_sign_lt {number width : Nat} (positive : 0 < width) (left right : GoString) :
    collation (0x2d :: left) < collation (digits width number ++ right) := by
  cases shape : digits width number with
  | nil =>
    have long := length_digits width number
    rw [shape] at long
    exact absurd long (Nat.ne_of_lt positive)
  | cons byte rest =>
    have digit : isDigitByte byte = true := isDigitByte_of_mem (shape ▸ List.mem_cons_self)
    simp only [isDigitByte, Bool.and_eq_true, decide_eq_true_eq, UInt8.le_iff_toNat_le] at digit
    have least : (0x30 : UInt8).toNat = 48 := rfl
    have sign : (0x2d : UInt8).toNat = 45 := rfl
    simp only [collation, List.map_cons, List.cons_append]
    exact List.cons_lt_cons_iff.mpr (.inl (by omega))

private theorem stamp_signed {time : SqlTime} (negative : yearStored time < 0) : ∃ rest, stamp time = 0x2d :: rest := by
  unfold stamp Moment.format appendInt
  rw [if_pos (show (momentOf time).date.year < 0 from negative)]
  exact ⟨_, rfl⟩

private theorem stamp_tenThousand {time : SqlTime} (late : yearStored time = 10000) :
    ∃ rest, stamp time = digits 4 1000 ++ rest := by
  have year : appendInt 10000 4 = digits 4 1000 ++ [0x30] := by decide
  unfold stamp Moment.format
  rw [show (momentOf time).date.year = 10000 from late, year]
  simp only [List.append_assoc]
  exact ⟨_, rfl⟩

private theorem stamp_dated {time : SqlTime} (dated : Dated time) :
    ∃ rest, stamp time = digits 4 (yearStored time).natAbs ++ rest := by
  have shape := Moment.format_eq (fits_momentOf dated) 0x20 []
  rw [List.append_nil] at shape
  exact ⟨_, shape⟩

private theorem lt_of_yearStored_lt {first second : SqlTime} (less : yearStored first < yearStored second) :
    first < second :=
  lt_of_before (.inl (.inl less))

section Recent

variable {now : Time} {row : ResultRow}

/-- The clock five minutes ago is behind the year 1000, and no year of five digits. -/
def Current (now : Time) : Prop := 1001 ≤ yearStored (toSql now - 300) ∧ yearStored (toSql now - 300) ≤ 9999

theorem Current.dated (current : Current now) : Dated (toSql now - 300) := by
  obtain ⟨late, early⟩ := current
  exact ⟨Int.le_trans (by decide) late, early⟩

private theorem recentText_dated (current : Current now) (dated : Dated row.observedAt) :
    recentText now row = recent now row := by
  unfold recentText recent
  exact decide_eq_decide.mpr (stamp_lt_iff current.dated dated)

/-- Before the first year both say that the result is old. -/
theorem recentText_negative (current : Current now) (negative : yearStored row.observedAt < 0) :
    recentText now row = false ∧ recent now row = false := by
  obtain ⟨rest, signed⟩ := stamp_signed negative
  obtain ⟨behind, clock⟩ := stamp_dated current.dated
  have text : collation (stamp row.observedAt) < collation (stamp (toSql now - 300)) := by
    rw [signed, clock]
    exact collation_sign_lt (by decide) rest behind
  have earlier : row.observedAt < toSql now - 300 :=
    lt_of_yearStored_lt (Int.lt_of_lt_of_le negative (Int.le_trans (by decide) current.1))
  exact ⟨decide_eq_false (lt_asymm text), decide_eq_false (lt_asymm earlier)⟩

/-- In the year 10000 the text says that it is old. -/
theorem recentText_tenThousand (current : Current now) (late : yearStored row.observedAt = 10000) :
    recentText now row = false ∧ recent now row = true := by
  obtain ⟨rest, written⟩ := stamp_tenThousand late
  obtain ⟨behind, clock⟩ := stamp_dated current.dated
  obtain ⟨above, below⟩ := current
  have text : ¬ collation (stamp (toSql now - 300)) < collation (stamp row.observedAt) := by
    rw [written, clock, collation_digits_append_lt_iff (by omega) (by decide)]
    omega
  have later : toSql now - 300 < row.observedAt := lt_of_yearStored_lt (by rw [late]; omega)
  exact ⟨decide_eq_false text, decide_eq_true later⟩

private theorem recentText_eq (current : Current now) (year : yearStored row.observedAt ≤ 9999) :
    recentText now row = recent now row := by
  by_cases negative : yearStored row.observedAt < 0
  · obtain ⟨text, old⟩ := recentText_negative current negative
    rw [text, old]
  · exact recentText_dated current ⟨Int.not_lt.mp negative, year⟩

/-- What is recent was not observed before the first year. -/
theorem dated_of_recent (current : Current now) (year : yearStored row.observedAt ≤ 9999)
    (fresh : recent now row = true) : Dated row.observedAt := by
  refine ⟨Int.not_lt.mp (fun negative => ?_), year⟩
  rw [(recentText_negative current negative).2] at fresh
  cases fresh

end Recent

/-- The greatest text is that of the latest instant. -/
theorem foldl_laterText {times : List SqlTime} {first : SqlTime} (dated : Dated first)
    (all : ∀ time ∈ times, Dated time) :
    (times.map stamp).foldl laterText (stamp first) = stamp (times.foldl max first) := by
  induction times generalizing first with
  | nil => rfl
  | cons time rest ih =>
    have own := all time List.mem_cons_self
    have others := fun other member => all other (List.mem_cons_of_mem time member)
    rw [List.map_cons, List.foldl_cons, List.foldl_cons, laterText]
    by_cases less : first < time
    · rw [if_pos ((stamp_lt_iff dated own).mpr less), max_eq_right (le_of_lt less)]
      exact ih own others
    · rw [if_neg (mt (stamp_lt_iff dated own).mp less), max_eq_left (not_lt.mp less)]
      exact ih dated others

private theorem latestText_eq {rows : List ResultRow} (dated : ∀ row ∈ rows, Dated row.observedAt) :
    latestText rows = latest stamp rows := by
  cases rows with
  | nil => rfl
  | cons first rest =>
    have times : ∀ time ∈ rest.map ResultRow.observedAt, Dated time := by
      intro time member
      obtain ⟨row, present, rfl⟩ := List.mem_map.mp member
      exact dated row (List.mem_cons_of_mem first present)
    have greatest := foldl_laterText (dated first List.mem_cons_self) times
    rw [List.map_map] at greatest
    exact congrArg SqlValue.text greatest

/-- The size of a group. -/
theorem length_ofGroup (keep : ResultRow → Bool) (rows : List ResultRow) (pair : GoString × GoString) :
    (ofGroup ResultRow.pair (rows.filter keep) pair).length =
      rows.countP (fun row => decide (row.pair = pair) && keep row) := by
  rw [ofGroup, List.filter_filter, List.countP_eq_length_filter]

/-- A result that the text makes old is missing from its group. -/
theorem ofGroup_shorter {now : Time} {rows : List ResultRow} {row : ResultRow} (present : row ∈ rows)
    (fewer : ∀ other ∈ rows, recentText now other = true → recent now other = true) (text : recentText now row = false)
    (fresh : recent now row = true) :
    (ofGroup ResultRow.pair (rows.filter (recentText now)) row.pair).length <
      (ofGroup ResultRow.pair (rows.filter (recent now)) row.pair).length := by
  obtain ⟨before, behind, rfl⟩ := List.append_of_mem present
  have part : ∀ sublist : List ResultRow, sublist ⊆ before ++ row :: behind →
      sublist.countP (fun other => decide (other.pair = row.pair) && recentText now other) ≤
        sublist.countP (fun other => decide (other.pair = row.pair) && recent now other) := by
    intro sublist inside
    refine List.countP_mono_left (fun other member shown => ?_)
    rw [Bool.and_eq_true] at shown ⊢
    exact ⟨shown.1, fewer other (inside member) shown.2⟩
  have front := part before (List.subset_append_left _ _)
  have back := part behind (fun other member => List.mem_append_right _ (List.mem_cons_of_mem row member))
  rw [length_ofGroup, length_ofGroup, List.countP_append, List.countP_append, List.countP_cons, List.countP_cons]
  simp only [text, fresh, Bool.and_false, Bool.false_eq_true, if_false, decide_true, Bool.and_true, if_true]
  omega

/-- The query on the stored texts returns the rows it is meant to return exactly when no result
was observed in the year 10000, the latest a request can name. -/
theorem matrix_text_right_iff (now : Time) (db : DB) (current : Current now)
    (years : ∀ row ∈ db.results.rows, yearStored row.observedAt ≤ 10000) :
    matrixRowsText now db = matrixRows stamp now db ↔ ∀ row ∈ db.results.rows, yearStored row.observedAt ≠ 10000 := by
  constructor
  · intro same row present late
    obtain ⟨text, fresh⟩ := recentText_tenThousand current late
    have fewer : ∀ other ∈ db.results.rows, recentText now other = true → recent now other = true := by
      intro other member shown
      by_cases five : yearStored other.observedAt = 10000
      · rw [(recentText_tenThousand current five).1] at shown
        cases shown
      · have year := years other member
        rw [← recentText_eq current (by omega)]
        exact shown
    have shorter := ofGroup_shorter present fewer text fresh
    -- the row of this pair counts samples that the texts leave out
    have listed := mem_groupBy (List.ne_nil_of_length_pos (Nat.zero_lt_of_lt shorter))
    have counted : matrixRow stamp (row.pair, _) ∈ matrixRows stamp now db := List.mem_map_of_mem listed
    rw [← same] at counted
    obtain ⟨group, shown, equal⟩ := List.mem_map.mp counted
    have pair : group.1 = row.pair :=
      Prod.ext (congrArg MatrixRow.sourceID equal) (congrArg MatrixRow.targetID equal)
    have samples : (group.2.length : Int) = _ := congrArg MatrixRow.samples equal
    rw [groupBy_rows shown, pair] at samples
    exact absurd (Int.ofNat.inj samples) (Nat.ne_of_lt shorter)
  · intro early
    have below : ∀ row ∈ db.results.rows, yearStored row.observedAt ≤ 9999 := by
      intro row present
      have year := years row present
      have other := early row present
      omega
    have filters : db.results.rows.filter (recentText now) = db.results.rows.filter (recent now) :=
      List.filter_congr (fun row present => recentText_eq current (below row present))
    unfold matrixRowsText matrixRows
    rw [filters]
    refine List.map_congr_left (fun group member => ?_)
    have dated : ∀ row ∈ group.2, Dated row.observedAt := by
      intro row inside
      rw [groupBy_rows member] at inside
      obtain ⟨present, fresh⟩ := List.mem_filter.mp (List.mem_filter.mp inside).1
      exact dated_of_recent current (below row present) fresh
    unfold matrixRowText
    rw [latestText_eq dated]
    rfl

/-- A hub posts a measurement of the last minute of the year 9999, an hour west of UTC. -/
def lateReports : List ControllerRequest :=
  hubReports.take 1 ++ [.results (lit "hub-1")
    (.ok {
      sourceID := lit "hub-1", probeRunID := lit "run-1", observedAt := 253402304340 * second
      results := [{ targetID := lit "hub-2", latencyMs := some 1 }] }) 0]

private theorem current_2023 : Current (1700000000 * second) := by
  unfold Current
  decide

/-- On November 14 of 2023 it is the latest result of all, and the query does not return it. -/
theorem late_result_not_shown :
    matrixRowsText (1700000000 * second) (hubState lateReports) ≠
        matrixRows stamp (1700000000 * second) (hubState lateReports) ∧
      matrixRowsText (1700000000 * second) (hubState hubReports) =
        matrixRows stamp (1700000000 * second) (hubState hubReports) := by
  have late : ∃ row ∈ (hubState lateReports).results.rows, yearStored row.observedAt = 10000 := by decide +kernel
  refine ⟨fun same => ?_, ?_⟩
  · obtain ⟨row, present, year⟩ := late
    exact (matrix_text_right_iff _ (hubState lateReports) current_2023 (by decide +kernel)).mp same row present year
  · exact (matrix_text_right_iff _ (hubState hubReports) current_2023 (by decide +kernel)).mpr (by decide +kernel)

end NetLatencyMonitor.Controller
