import Mathlib.Algebra.Order.Field.Rat
import NetLatencyMonitor.Controller.Deletion
import NetLatencyMonitor.Keyed.GroupBy

/-! The latency matrix of the dashboard: SQL aggregates over the results of the last five
minutes, and the `Scan` of each group into Go values. A `float64` is kept as a rational. -/

namespace NetLatencyMonitor.Controller

open Clock Keyed Text

structure MatrixEntry where
  sourceID : GoString
  targetID : GoString
  avgLatMS : ℚ
  minLatMS : ℚ
  maxLatMS : ℚ
  samples : Int
  hasError : Bool
  lastSeen : Time
deriving DecidableEq, Repr

structure LatencyMatrix where
  nodes : List GoString
  entries : List MatrixEntry
deriving DecidableEq, Repr

/-- A value of a result column. -/
inductive SqlValue where
  | null
  | integer (value : Int)
  | real (value : ℚ)
  | text (value : GoString)
deriving DecidableEq, Repr

/-- What the driver makes of a column when it is scanned into a `float64` or, given the
declared type of the column if it has one, into a `time.Time`; a failure is its text. -/
structure Driver where
  scanFloat : SqlValue → Except GoString ℚ
  scanTime : Option GoString → SqlValue → Except GoString Time

/-- What is known of the driver: NULL is no `float64`, a REAL is, and a text of a column
without declared type is no `time.Time`. -/
structure Driver.Assumed (driver : Driver) : Prop where
  null : ∃ error, driver.scanFloat .null = .error error
  untyped : ∀ text, ∃ error, driver.scanTime none (.text text) = .error error

/-- One row of the query's result. -/
structure MatrixRow where
  sourceID : GoString
  targetID : GoString
  avgMs : SqlValue
  minMs : SqlValue
  maxMs : SqlValue
  samples : Int
  lastSeen : SqlValue
  errors : Int
deriving DecidableEq, Repr

/-- `observed_at > datetime('now', '-5 minutes')`, on the instants; `MatrixText` has the
comparison of their texts. -/
def recent (now : Time) (row : ResultRow) : Bool := decide (toSql now - 300 < row.observedAt)

/-- `error IS NOT NULL AND error != ''`. -/
def ResultRow.failed (row : ResultRow) : Bool := decide (row.error ≠ none) && decide (row.error ≠ some [])

def ResultRow.pair (row : ResultRow) : GoString × GoString := (row.sourceID, row.targetID)

/-- An aggregate of a REAL column: NULL values are left out, and none left give NULL. -/
def aggregateReal (combine : List ℚ → ℚ) (values : List (Option ℚ)) : SqlValue :=
  match values.filterMap id with
  | [] => .null
  | first :: rest => .real (combine (first :: rest))

def average (values : List ℚ) : ℚ := values.sum / values.length

/-- `MIN` of a list that is not empty. -/
def least : List ℚ → ℚ
  | [] => 0
  | first :: rest => rest.foldl min first

def greatest : List ℚ → ℚ
  | [] => 0
  | first :: rest => rest.foldl max first

section Query

-- how SQLite's text shows an instant
variable (layout : SqlTime → GoString)

/-- `MAX(observed_at)`: the layout orders as the instants do. -/
def latest (rows : List ResultRow) : SqlValue :=
  match rows with
  | [] => .null
  | first :: rest => .text (layout ((rest.map ResultRow.observedAt).foldl max first.observedAt))

def matrixRow (group : (GoString × GoString) × List ResultRow) : MatrixRow where
  sourceID := group.1.1
  targetID := group.1.2
  avgMs := aggregateReal average (group.2.map ResultRow.latencyMs)
  minMs := aggregateReal least (group.2.map ResultRow.latencyMs)
  maxMs := aggregateReal greatest (group.2.map ResultRow.latencyMs)
  samples := group.2.length
  lastSeen := latest layout group.2
  errors := group.2.countP ResultRow.failed

/-- The rows the query returns at an instant. -/
def matrixRows (now : Time) (db : DB) : List MatrixRow :=
  (groupBy ResultRow.pair (db.results.rows.filter (recent now))).map (matrixRow layout)

variable (driver : Driver)

/-- The `Scan` of one row. None of the aggregates has a declared type. -/
def scanEntry (row : MatrixRow) : Except GoString MatrixEntry := do
  let avgLatMS ← driver.scanFloat row.avgMs
  let minLatMS ← driver.scanFloat row.minMs
  let maxLatMS ← driver.scanFloat row.maxMs
  let lastSeen ← driver.scanTime none row.lastSeen
  return {
    sourceID := row.sourceID, targetID := row.targetID, avgLatMS, minLatMS, maxLatMS
    samples := row.samples, lastSeen
    hasError := decide (row.errors > 0) && decide (row.samples = row.errors) }

/-- The ids of the enabled hubs, sorted. -/
def hubIDs (db : DB) : List GoString :=
  orderBy collation
    (((NodeStore.list db).filter (fun n => decide (n.role = roleHub) && !n.disabled)).map Node.id)

def queryMatrix (now : Time) (db : DB) : Except GoString LatencyMatrix :=
  if hubIDs db = [] then .ok ⟨hubIDs db, []⟩
  else
    match (matrixRows layout now db).mapM (scanEntry driver) with
    | .error error => .error error
    | .ok entries => .ok ⟨hubIDs db, entries⟩

end Query

/-- The results of a pair observed in the last five minutes. -/
def observed (now : Time) (db : DB) (pair : GoString × GoString) : List ResultRow :=
  ofGroup ResultRow.pair (db.results.rows.filter (recent now)) pair

/-- What the dashboard's matrix should be. -/
structure MatrixRight (now : Time) (db : DB) (matrix : LatencyMatrix) : Prop where
  sorted : matrix.nodes.Pairwise (fun left right => collation left ≤ collation right)
  once : matrix.nodes.Nodup
  hubs : ∀ id, id ∈ matrix.nodes ↔ ∃ n, NodeStore.get db id = .ok n ∧ n.role = roleHub ∧ n.disabled = false
  pairs : (matrix.entries.map (fun entry => (entry.sourceID, entry.targetID))).Nodup
  covers : ∀ pair, pair ∈ matrix.entries.map (fun entry => (entry.sourceID, entry.targetID)) ↔
    observed now db pair ≠ []
  samples : ∀ entry ∈ matrix.entries, entry.samples = (observed now db (entry.sourceID, entry.targetID)).length
  hasError : ∀ entry ∈ matrix.entries, entry.hasError = true ↔
    ∀ row ∈ observed now db (entry.sourceID, entry.targetID), row.error ≠ none ∧ row.error ≠ some []

/-! The axes. -/

private theorem mem_list {db : DB} {n : Node} : n ∈ NodeStore.list db ↔ NodeStore.get db n.id = .ok n := by
  rw [NodeStore.get_eq_ok_iff, NodeStore.list, List.mem_map]
  constructor
  · rintro ⟨row, member, rfl⟩
    exact ⟨row, Table.find?_eq_some_iff.mpr ⟨mem_orderBy.mp member, rfl⟩, rfl⟩
  · rintro ⟨row, found, same⟩
    exact ⟨row, mem_orderBy.mpr (Table.find?_eq_some_iff.mp found).1, same⟩

private theorem mem_hubIDs {db : DB} {id : GoString} :
    id ∈ hubIDs db ↔ ∃ n, NodeStore.get db id = .ok n ∧ n.role = roleHub ∧ n.disabled = false := by
  simp only [hubIDs, mem_orderBy, List.mem_map, List.mem_filter, mem_list, Bool.and_eq_true,
    decide_eq_true_eq, Bool.not_eq_true']
  constructor
  · rintro ⟨n, ⟨found, role, enabled⟩, rfl⟩
    exact ⟨n, found, role, enabled⟩
  · rintro ⟨n, found, role, enabled⟩
    have same := NodeStore.get_id found
    exact ⟨n, ⟨same ▸ found, role, enabled⟩, same⟩

private theorem hubIDs_nodup (db : DB) : (hubIDs db).Nodup := by
  have ids : ((NodeStore.list db).map Node.id).Nodup := by
    have same : (NodeStore.list db).map Node.id =
        (orderBy (fun row : NodeRow => collation row.id) db.nodes.rows).map NodeRow.id := by
      simp only [NodeStore.list, List.map_map]
      rfl
    rw [same]
    exact ((orderBy_perm _ _).map NodeRow.id).nodup_iff.mpr db.nodes.unique
  refine (orderBy_perm _ _).nodup_iff.mpr (ids.sublist ?_)
  exact List.filter_sublist.map Node.id

/-! The entries. -/

section Entries

variable {layout : SqlTime → GoString} {driver : Driver} {now : Time} {db : DB}

/-- A row that was scanned had each of its aggregates scanned. -/
theorem scanEntry_ok {row : MatrixRow} {entry : MatrixEntry} (scanned : scanEntry driver row = .ok entry) :
    (∃ avg, driver.scanFloat row.avgMs = .ok avg) ∧ (∃ seen, driver.scanTime none row.lastSeen = .ok seen) ∧
      (entry.sourceID, entry.targetID) = (row.sourceID, row.targetID) ∧ entry.samples = row.samples ∧
      entry.hasError = (decide (row.errors > 0) && decide (row.samples = row.errors)) := by
  obtain ⟨avgLatMS, avgRead, scanned⟩ := ok_of_bind scanned
  obtain ⟨minLatMS, _, scanned⟩ := ok_of_bind scanned
  obtain ⟨maxLatMS, _, scanned⟩ := ok_of_bind scanned
  obtain ⟨lastSeen, seenRead, scanned⟩ := ok_of_bind scanned
  cases scanned
  exact ⟨⟨avgLatMS, avgRead⟩, ⟨lastSeen, seenRead⟩, rfl, rfl, rfl⟩

/-- A group is an error throughout exactly when it has errors and as many as samples. -/
theorem allFailed_iff {rows : List ResultRow} (filled : rows ≠ []) :
    (decide ((rows.countP ResultRow.failed : Int) > 0) && decide ((rows.length : Int) = rows.countP ResultRow.failed)) =
        true ↔
      ∀ row ∈ rows, row.error ≠ none ∧ row.error ≠ some [] := by
  have each : (∀ row ∈ rows, row.error ≠ none ∧ row.error ≠ some []) ↔
      rows.countP ResultRow.failed = rows.length := by
    rw [List.countP_eq_length]
    simp [ResultRow.failed]
  rw [each, Bool.and_eq_true, decide_eq_true_eq, decide_eq_true_eq]
  have length := List.length_pos_iff.mpr filled
  omega

/-- The entries in the order of the rows they were scanned from. -/
abbrev Scanned (driver : Driver) : List MatrixRow → List MatrixEntry → Prop :=
  List.Forall₂ (fun row entry => scanEntry driver row = .ok entry)

theorem Scanned.pairs {rows : List MatrixRow} {entries : List MatrixEntry} (scanned : Scanned driver rows entries) :
    entries.map (fun entry => (entry.sourceID, entry.targetID)) =
      rows.map (fun row => (row.sourceID, row.targetID)) := by
  induction scanned with
  | nil => rfl
  | cons first _ ih => rw [List.map_cons, List.map_cons, ih, (scanEntry_ok first).2.2.1]

theorem Scanned.row {rows : List MatrixRow} {entries : List MatrixEntry} (scanned : Scanned driver rows entries)
    {entry : MatrixEntry} (member : entry ∈ entries) : ∃ row ∈ rows, scanEntry driver row = .ok entry := by
  induction scanned with
  | nil => cases member
  | cons first _ ih =>
    rcases List.mem_cons.mp member with rfl | later
    · exact ⟨_, List.mem_cons_self, first⟩
    · obtain ⟨row, present, read⟩ := ih later
      exact ⟨row, List.mem_cons_of_mem _ present, read⟩

theorem Scanned.entry {rows : List MatrixRow} {entries : List MatrixEntry} (scanned : Scanned driver rows entries)
    {row : MatrixRow} (member : row ∈ rows) : ∃ entry, scanEntry driver row = .ok entry := by
  induction scanned with
  | nil => cases member
  | cons first _ ih =>
    rcases List.mem_cons.mp member with rfl | later
    · exact ⟨_, first⟩
    · exact ih later

/-- What was scanned from the query's rows is the matrix. -/
theorem matrixRight_of_scanned {entries : List MatrixEntry}
    (scanned : Scanned driver (matrixRows layout now db) entries) :
    MatrixRight now db ⟨hubIDs db, entries⟩ := by
  have pairs : entries.map (fun entry => (entry.sourceID, entry.targetID)) =
      ((db.results.rows.filter (recent now)).map ResultRow.pair).dedup := by
    rw [scanned.pairs, ← groupBy_groups, matrixRows, List.map_map]
    rfl
  have source : ∀ entry ∈ entries, ∃ rows, rows ≠ [] ∧ rows = observed now db (entry.sourceID, entry.targetID) ∧
      entry.samples = rows.length ∧
      entry.hasError = (decide ((rows.countP ResultRow.failed : Int) > 0) &&
        decide ((rows.length : Int) = rows.countP ResultRow.failed)) := by
    intro entry member
    obtain ⟨row, present, read⟩ := scanned.row member
    obtain ⟨group, grouped, rfl⟩ := List.mem_map.mp present
    obtain ⟨_, _, pair, samples, hasError⟩ := scanEntry_ok read
    refine ⟨group.2, groupBy_nonempty grouped, ?_, samples, hasError⟩
    rw [pair]
    exact groupBy_rows grouped
  refine ⟨orderBy_sorted collation _, hubIDs_nodup db, fun id => mem_hubIDs, ?_, ?_, ?_, ?_⟩
  · rw [pairs]
    exact List.nodup_dedup _
  · intro pair
    rw [pairs, List.mem_dedup, List.mem_map]
    constructor
    · rintro ⟨row, present, same⟩
      exact List.ne_nil_of_mem (List.mem_filter.mpr ⟨present, decide_eq_true same⟩)
    · intro nonempty
      obtain ⟨row, member⟩ := List.exists_mem_of_ne_nil _ nonempty
      obtain ⟨present, same⟩ := List.mem_filter.mp member
      exact ⟨row, present, of_decide_eq_true same⟩
  · intro entry member
    obtain ⟨rows, _, same, samples, _⟩ := source entry member
    rw [samples, same]
  · intro entry member
    obtain ⟨rows, filled, same, _, hasError⟩ := source entry member
    rw [hasError, ← same]
    exact allFailed_iff filled

/-- A row scans, or some column does not. -/
theorem scanEntry_total {row : MatrixRow} (float : ∀ value, ∃ number, driver.scanFloat value = .ok number)
    (time : ∀ declared value, ∃ instant, driver.scanTime declared value = .ok instant) :
    ∃ entry, scanEntry driver row = .ok entry := by
  obtain ⟨avg, avgRead⟩ := float row.avgMs
  obtain ⟨low, lowRead⟩ := float row.minMs
  obtain ⟨high, highRead⟩ := float row.maxMs
  obtain ⟨seen, seenRead⟩ := time none row.lastSeen
  unfold scanEntry
  rw [avgRead, lowRead, highRead, seenRead]
  exact ⟨_, rfl⟩

private theorem latest_text {rows : List ResultRow} (filled : rows ≠ []) : ∃ text, latest layout rows = .text text := by
  cases rows with
  | nil => exact absurd rfl filled
  | cons first rest => exact ⟨_, rfl⟩

private theorem scanned_of_mapM {rows : List MatrixRow} {entries : List MatrixEntry}
    (done : rows.mapM (scanEntry driver) = .ok entries) : Scanned driver rows entries := by
  induction rows generalizing entries with
  | nil =>
    cases done
    exact .nil
  | cons row rest ih =>
    rw [List.mapM_cons] at done
    obtain ⟨entry, read, done⟩ := ok_of_bind done
    obtain ⟨others, later, done⟩ := ok_of_bind done
    cases done
    exact .cons read (ih later)

/-- If every scan succeeded, the query's answer would be right: only the `Scan` stands in
the way. -/
theorem queryMatrix_right_of_scans (hub : hubIDs db ≠ [])
    (float : ∀ value, ∃ number, driver.scanFloat value = .ok number)
    (time : ∀ declared value, ∃ instant, driver.scanTime declared value = .ok instant) :
    ∃ matrix, queryMatrix layout driver now db = .ok matrix ∧ MatrixRight now db matrix := by
  have all : ∀ rows : List MatrixRow, ∃ entries, rows.mapM (scanEntry driver) = .ok entries := by
    intro rows
    induction rows with
    | nil => exact ⟨[], rfl⟩
    | cons row rest ih =>
      obtain ⟨entries, later⟩ := ih
      obtain ⟨entry, read⟩ := @scanEntry_total driver row float time
      exact ⟨entry :: entries, by rw [List.mapM_cons, read, later]; rfl⟩
  obtain ⟨entries, done⟩ := all (matrixRows layout now db)
  refine ⟨⟨hubIDs db, entries⟩, ?_, matrixRight_of_scanned (scanned_of_mapM done)⟩
  simp only [queryMatrix, if_neg hub, done]

/-- One group that cannot be scanned fails the whole query. -/
theorem queryMatrix_stops (hub : hubIDs db ≠ []) {group : (GoString × GoString) × List ResultRow}
    (member : group ∈ groupBy ResultRow.pair (db.results.rows.filter (recent now)))
    (stops : ∀ entry, scanEntry driver (matrixRow layout group) ≠ .ok entry) :
    ∃ error, queryMatrix layout driver now db = .error error := by
  cases done : (matrixRows layout now db).mapM (scanEntry driver) with
  | error error => exact ⟨error, by simp only [queryMatrix, if_neg hub, done]⟩
  | ok entries =>
    obtain ⟨entry, read⟩ := (scanned_of_mapM done).entry (List.mem_map_of_mem member)
    exact absurd read (stops entry)

/-- One recent result is enough for the query to fail: the time of the last one is a text
without a declared type. -/
theorem queryMatrix_fails (assumed : driver.Assumed) (hub : hubIDs db ≠ [])
    (anyRecent : ∃ row ∈ db.results.rows, recent now row = true) :
    ∃ error, queryMatrix layout driver now db = .error error := by
  obtain ⟨row, present, fresh⟩ := anyRecent
  have filled : groupBy ResultRow.pair (db.results.rows.filter (recent now)) ≠ [] := by
    rw [ne_eq, groupBy_eq_nil_iff]
    exact List.ne_nil_of_mem (List.mem_filter.mpr ⟨present, fresh⟩)
  obtain ⟨group, member⟩ := List.exists_mem_of_ne_nil _ filled
  obtain ⟨text, shown⟩ := @latest_text layout _ (groupBy_nonempty member)
  obtain ⟨reason, untyped⟩ := assumed.untyped text
  refine queryMatrix_stops hub member (fun entry read => ?_)
  obtain ⟨_, ⟨seen, seenRead⟩, _⟩ := scanEntry_ok read
  have failed : driver.scanTime none (latest layout group.2) = .error reason := by rw [shown, untyped]
  exact absurd (seenRead.symm.trans failed) (fun impossible => nomatch impossible)

/-- A pair without a single latency fails it too, even where the time can be scanned. -/
theorem queryMatrix_fails_unmeasured (null : ∃ error, driver.scanFloat .null = .error error) (hub : hubIDs db ≠ [])
    {pair : GoString × GoString} (nonempty : observed now db pair ≠ [])
    (unmeasured : ∀ row ∈ observed now db pair, row.latencyMs = none) :
    ∃ error, queryMatrix layout driver now db = .error error := by
  obtain ⟨error, null⟩ := null
  have nothing : ((observed now db pair).map ResultRow.latencyMs).filterMap id = [] := by
    rw [List.filterMap_eq_nil_iff]
    intro latency listed
    obtain ⟨row, member, rfl⟩ := List.mem_map.mp listed
    exact unmeasured row member
  have aggregate : aggregateReal average ((observed now db pair).map ResultRow.latencyMs) = .null := by
    rw [aggregateReal, nothing]
  refine queryMatrix_stops hub (mem_groupBy nonempty) (fun entry read => ?_)
  obtain ⟨⟨avg, avgRead⟩, _⟩ := scanEntry_ok read
  have scanned : driver.scanFloat .null = .ok avg := aggregate ▸ avgRead
  rw [null] at scanned
  cases scanned

/-- With an enabled hub, the matrix is right exactly when no result was observed in the
last five minutes. -/
theorem queryMatrix_right_iff (assumed : driver.Assumed) (hub : ∃ id n, NodeStore.get db id = .ok n ∧
    n.role = roleHub ∧ n.disabled = false) :
    (∃ matrix, queryMatrix layout driver now db = .ok matrix ∧ MatrixRight now db matrix) ↔
      ∀ row ∈ db.results.rows, row.observedAt ≤ toSql now - 300 := by
  obtain ⟨id, enabled⟩ := hub
  have hubs : hubIDs db ≠ [] := List.ne_nil_of_mem (mem_hubIDs.mpr enabled)
  constructor
  · rintro ⟨matrix, answered, _⟩ row present
    by_contra late
    obtain ⟨error, failed⟩ := @queryMatrix_fails layout driver now db assumed hubs
      ⟨row, present, decide_eq_true (Int.not_le.mp late)⟩
    rw [failed] at answered
    cases answered
  · intro old
    have noneRecent : db.results.rows.filter (recent now) = [] := by
      refine List.filter_eq_nil_iff.mpr (fun row present fresh => ?_)
      exact absurd (old row present) (Int.not_le.mpr (of_decide_eq_true fresh))
    have rows : matrixRows layout now db = [] := by
      rw [matrixRows, noneRecent]
      rfl
    have scanned : Scanned driver (matrixRows layout now db) [] := by
      rw [rows]
      exact .nil
    refine ⟨⟨hubIDs db, []⟩, ?_, matrixRight_of_scanned scanned⟩
    rw [queryMatrix, if_neg hubs, rows]
    rfl

end Entries

/-- A driver that does what is assumed and scans REAL and INTEGER values. -/
def strictDriver : Driver where
  scanFloat
    | .null => .error (lit "converting NULL to float64 is unsupported")
    | .integer value => .ok value
    | .real value => .ok value
    | .text _ => .error (lit "invalid syntax")
  scanTime _ _ := .error (lit "unsupported Scan, storing driver.Value type string into type *time.Time")

private theorem strictDriver_assumed : strictDriver.Assumed where
  null := ⟨_, rfl⟩
  untyped := fun _ => ⟨_, rfl⟩

/-- The one instant that occurs below, in SQLite's layout. -/
def epochLayout (_ : SqlTime) : GoString := lit "1970-01-01 00:00:00"

/-- A hub is created and posts one measurement. -/
def hubReports : List ControllerRequest :=
  [.admin ⟨.restCreate none
      (.ok { id := lit "hub-1", role := roleHub, address := lit "10.0.0.1:443", secret := lit "abc" }), rfl⟩,
   .results (lit "hub-1")
    (.ok {
      sourceID := lit "hub-1", probeRunID := lit "run-1", observedAt := 0
      results := [{ targetID := lit "hub-2", latencyMs := some 1 }] }) 0]

def hubState (requests : List ControllerRequest) : DB := ((Ingest.start DB.migrated).serveAll digestOfAbc requests).db

private theorem hubState_enabled : ∃ id n, NodeStore.get (hubState hubReports) id = .ok n ∧ n.role = roleHub ∧
    n.disabled = false := by
  have created : NodeStore.get (hubState hubReports) (lit "hub-1") =
      .ok ⟨lit "hub-1", roleHub, hashSecret digestOfAbc (lit "abc"), lit "10.0.0.1:443", false⟩ := by decide +kernel
  exact ⟨_, _, created, rfl, rfl⟩

/-- One successful measurement in the last five minutes, and the dashboard has no matrix. -/
theorem recent_result_breaks_matrix :
    (∃ id n, NodeStore.get (hubState hubReports) id = .ok n ∧ n.role = roleHub ∧ n.disabled = false) ∧
      strictDriver.Assumed ∧
      (∃ error, queryMatrix epochLayout strictDriver 0 (hubState hubReports) = .error error) ∧
      ¬ ∃ matrix, queryMatrix epochLayout strictDriver 0 (hubState hubReports) = .ok matrix ∧
        MatrixRight 0 (hubState hubReports) matrix := by
  obtain ⟨id, node⟩ := hubState_enabled
  have hubs : hubIDs (hubState hubReports) ≠ [] := List.ne_nil_of_mem (mem_hubIDs.mpr node)
  obtain ⟨error, failed⟩ := @queryMatrix_fails epochLayout strictDriver 0 (hubState hubReports)
    strictDriver_assumed hubs (by decide +kernel)
  refine ⟨⟨id, node⟩, strictDriver_assumed, ⟨error, failed⟩, ?_⟩
  rintro ⟨matrix, answered, _⟩
  rw [failed] at answered
  cases answered

/-- Ten minutes after the measurement the matrix is right: its axes and no entries. -/
theorem queryMatrix_right_once_old :
    (hubState hubReports).results.rows ≠ [] ∧
      ∃ matrix, queryMatrix epochLayout strictDriver (600 * second) (hubState hubReports) = .ok matrix ∧
        MatrixRight (600 * second) (hubState hubReports) matrix :=
  ⟨by decide +kernel, (queryMatrix_right_iff strictDriver_assumed hubState_enabled).mpr (by decide +kernel)⟩

end NetLatencyMonitor.Controller
