import NetLatencyMonitor.Calendar.Layout
import NetLatencyMonitor.Machine.Simulation
import NetLatencyMonitor.Spool.Accounting

/-! The spool with its DATETIME columns as SQLite keeps them, as text. The statements order
by the text, and `parseSQLiteTime` reads it back; the model with whole seconds in the
columns takes the same steps as long as the clock shows a year of four digits. -/

namespace NetLatencyMonitor.Spool

open Calendar Clock Keyed Machine Text

/-- `parseSQLiteTime`: the first of four layouts that fits. -/
def parseSQLiteTime (text : GoString) : Option Time :=
  [sqliteLayout, sqliteLayoutNano, rfc3339Nano, rfc3339].findSome? (fun layout => parseInUTC layout text)

/-- What the driver puts into a `sql.NullString` for the text of a column that is declared
DATETIME: the text itself, or what `database/sql` prints for the `time.Time` it has become. -/
structure ColumnReader where
  read : GoString → GoString
  reads : ∀ time, Dated time → read (stamp time) = stamp time ∨ read (stamp time) = stampRFC3339 time

structure TextRow where
  id : Nat
  enqueuedAt : GoString
  probeRunID : GoString
  payload : GoString
  attempts : Int := 0
  lastAttemptAt : Option GoString := none
  lastError : Option GoString := none
deriving DecidableEq, Repr

structure TextDB where
  rows : List TextRow
  seq : Nat
  dropsTotal : Int
deriving DecidableEq, Repr

namespace TextDB

def insert (db : TextDB) (probeRunID payload : GoString) (now : Time) : Option TextDB :=
  if probeRunID ∈ db.rows.map TextRow.probeRunID then none
  else
    let row : TextRow := { id := db.seq + 1, enqueuedAt := stamp (toSql now), probeRunID, payload }
    some { db with rows := db.rows ++ [row], seq := db.seq + 1 }

def deleteRow (db : TextDB) (id : Nat) : TextDB := { db with rows := db.rows.filter (fun row => row.id ≠ id) }

/-- The columns `markFailure` sets. -/
def failedRow (now : Time) (message : GoString) (row : TextRow) : TextRow :=
  { row with
    attempts := row.attempts + 1
    lastAttemptAt := some (stamp (toSql now))
    lastError := some message }

def markFailure (db : TextDB) (id : Nat) (now : Time) (message : GoString) : TextDB :=
  { db with rows := db.rows.map (fun row => if row.id = id then failedRow now message row else row) }

/-- `ORDER BY enqueued_at ASC`, in the collation of the column. -/
def oldestFirst (db : TextDB) : List TextRow := orderBy (fun row => collation row.enqueuedAt) db.rows

def limit (rows : List TextRow) (bound : Int) : List TextRow := if bound < 0 then rows else rows.take bound.toNat

/-- `SELECT MIN(enqueued_at) FROM spool`. -/
def minEnqueuedAt (db : TextDB) : Option GoString := db.oldestFirst.head?.map TextRow.enqueuedAt

def deleteOldest (db : TextDB) : TextDB × Nat :=
  match db.oldestFirst.head? with
  | none => (db, 0)
  | some row => (db.deleteRow row.id, 1)

def bumpDrops (db : TextDB) : TextDB := { db with dropsTotal := db.dropsTotal + 1 }

end TextDB

/-- The `candidate` of `Drain`. -/
structure TextCandidate where
  id : Nat
  probeRunID : GoString
  payload : GoString
  attempts : Int
  lastAttemptAt : Option GoString
deriving DecidableEq, Repr

/-- Where a call stands, as `SpoolCall`; `failed` is an error about a timestamp. -/
inductive TextCall where
  | insert (probeRunID payload : GoString)
  | select
  | sending (now : Time) (current : TextCandidate) (rest : List TextCandidate) (stats : DrainStats)
  | settle (now : Time) (current : TextCandidate) (outcome : SendOutcome) (message : GoString)
      (rest : List TextCandidate) (stats : DrainStats)
  | footprint (stats : DrainStats)
  | oldestAge (size : Int) (stats : DrainStats)
  | depth (size : Int) (age : Duration) (stats : DrainStats)
  | deleteOldest (stats : DrainStats)
  | bumpDrops (stats : DrainStats)
  | enqueued (duplicate : Bool)
  | drained (stats : DrainStats)
  | failed
deriving DecidableEq, Repr

namespace TextCall

/-- Whether the row's backoff window is still open; `none` is a text that no layout fits. -/
def waits (cfg : Config) (now : Time) (c : TextCandidate) : Option Bool :=
  match c.lastAttemptAt with
  | none => some false
  | some text => (parseSQLiteTime text).map (fun last =>
    decide (last + backoff c.attempts cfg.backoffBase cfg.backoffMax > now))

/-- The loop of `Drain` from one send to the next. -/
def nextSend (cfg : Config) (now : Time) (stats : DrainStats) : List TextCandidate → TextCall
  | [] => .footprint stats
  | c :: rest =>
    match waits cfg now c with
    | none => .failed
    | some true => nextSend cfg now { stats with skipped := stats.skipped + 1 } rest
    | some false => .sending now c rest stats

def applyOutcome (db : TextDB) (id : Nat) (now : Time) (message : GoString) : SendOutcome → TextDB
  | .accepted => db.deleteRow id
  | .permanentFail => db.markFailure id now message
  | .transientFail => db.markFailure id now message

variable (reader : ColumnReader)

/-- The `Scan` of a row of the batch. -/
def scan (row : TextRow) : TextCandidate :=
  ⟨row.id, row.probeRunID, row.payload, row.attempts, row.lastAttemptAt.map reader.read⟩

/-- Run the SQL statement the call has come to, at the given instant. -/
def statement (cfg : Config) (db : TextDB) (now : Time) : TextCall → Option (TextDB × TextCall)
  | .insert probeRunID payload =>
    match db.insert probeRunID payload now with
    | none => some (db, .enqueued true)
    | some after => some (after, .enqueued false)
  | .select =>
    let batch := (TextDB.limit db.oldestFirst cfg.drainRows).map (scan reader)
    some (db, nextSend cfg now { considered := batch.length } batch)
  | .settle started current outcome message rest stats =>
    some (applyOutcome db current.id now message outcome, nextSend cfg started (SpoolCall.count stats outcome) rest)
  | .oldestAge size stats =>
    match db.minEnqueuedAt with
    | none => some (db, .depth size 0 stats)
    -- `MIN` has no declared type: the text comes as it is stored
    | some text =>
      match parseSQLiteTime text with
      | none => some (db, .failed)
      | some oldest => some (db, .depth size (now - oldest) stats)
  | .depth size age stats =>
    if db.rows.length = 0 ∨ (size ≤ cfg.maxSize ∧ age ≤ cfg.maxAge) then some (db, .drained stats)
    else some (db, .deleteOldest stats)
  | .deleteOldest stats =>
    let (after, removed) := db.deleteOldest
    if removed = 0 then some (after, .drained stats) else some (after, .bumpDrops stats)
  | .bumpDrops stats => some (db.bumpDrops, .footprint { stats with dropped := stats.dropped + 1 })
  | .sending _ _ _ _ => none
  | .footprint _ => none
  | .enqueued _ => none
  | .drained _ => none
  | .failed => none

def sent (outcome : SendOutcome) (message : GoString) : TextCall → Option TextCall
  | .sending now current rest stats => some (.settle now current outcome message rest stats)
  | _ => none

def measured (size : Int) : TextCall → Option TextCall
  | .footprint stats => some (.oldestAge size stats)
  | _ => none

def finished : TextCall → Bool
  | .enqueued _ => true
  | .drained _ => true
  | .failed => true
  | _ => false

end TextCall

/-- One agent process on its spool. -/
structure TextProcess where
  db : TextDB
  call : Option TextCall

def textNext (reader : ColumnReader) (cfg : Config) (process : TextProcess) : SpoolEvent → Option TextProcess
  | .enqueue probeRunID payload =>
    match process.call with
    | some _ => none
    | none =>
      if probeRunID = [] ∨ payload = [] then some process
      else some { process with call := some (.insert probeRunID payload) }
  | .drain =>
    match process.call with
    | some _ => none
    | none => some { process with call := some .select }
  | .statement now =>
    process.call.bind (fun call => (call.statement reader cfg process.db now).map (fun (db, next) =>
      { db, call := if next.finished then none else some next }))
  | .sent outcome message =>
    (process.call.bind (TextCall.sent outcome message)).map (fun next => { process with call := some next })
  | .measured size =>
    (process.call.bind (TextCall.measured size)).map (fun next => { process with call := some next })
  | .interrupt => process.call.map (fun _ => { process with call := none })
  | .reopen =>
    match process.call with
    | some _ => none
    | none => some process

/-! The texts of a state in seconds. -/

def SpoolRow.text (row : SpoolRow) : TextRow where
  id := row.id
  enqueuedAt := stamp row.enqueuedAt
  probeRunID := row.probeRunID
  payload := row.payload
  attempts := row.attempts
  lastAttemptAt := row.lastAttemptAt.map stamp
  lastError := row.lastError

def SpoolDB.text (db : SpoolDB) : TextDB := ⟨db.rows.rows.map SpoolRow.text, db.seq, db.dropsTotal⟩

section Texts

variable (reader : ColumnReader)

def Candidate.text (c : Candidate) : TextCandidate :=
  ⟨c.id, c.probeRunID, c.payload, c.attempts, c.lastAttemptAt.map (fun last => reader.read (stamp last))⟩

def SpoolCall.text : SpoolCall → TextCall
  | .insert probeRunID payload => .insert probeRunID payload
  | .select => .select
  | .sending now current rest stats => .sending now (current.text reader) (rest.map (Candidate.text reader)) stats
  | .settle now current outcome message rest stats =>
    .settle now (current.text reader) outcome message (rest.map (Candidate.text reader)) stats
  | .footprint stats => .footprint stats
  | .oldestAge size stats => .oldestAge size stats
  | .depth size age stats => .depth size age stats
  | .deleteOldest stats => .deleteOldest stats
  | .bumpDrops stats => .bumpDrops stats
  | .enqueued duplicate => .enqueued duplicate
  | .drained stats => .drained stats

def SpoolProcess.text (process : SpoolProcess) : TextProcess :=
  ⟨process.db.text, process.call.map (SpoolCall.text reader)⟩

end Texts

/-! Years of four digits, everywhere. -/

structure SpoolRow.Dated (row : SpoolRow) : Prop where
  enqueued : Calendar.Dated row.enqueuedAt
  attempted : ∀ last ∈ row.lastAttemptAt, Calendar.Dated last

def SpoolDB.Dated (db : SpoolDB) : Prop := ∀ row ∈ db.rows.rows, row.Dated

def Candidate.Dated (c : Candidate) : Prop := ∀ last ∈ c.lastAttemptAt, Calendar.Dated last

def SpoolCall.Dated : SpoolCall → Prop
  | .sending _ current rest _ => current.Dated ∧ ∀ c ∈ rest, c.Dated
  | .settle _ current _ _ rest _ => current.Dated ∧ ∀ c ∈ rest, c.Dated
  | _ => True

/-! What the texts say. -/

private theorem parseSQLiteTime_stamp {time : SqlTime} (dated : Calendar.Dated time) :
    parseSQLiteTime (stamp time) = some (time * second) := by
  unfold parseSQLiteTime
  rw [List.findSome?_cons, parse_stamp dated]
  rfl

private theorem parseSQLiteTime_read (reader : ColumnReader) {time : SqlTime} (dated : Calendar.Dated time) :
    parseSQLiteTime (reader.read (stamp time)) = some (time * second) := by
  rcases reader.reads time dated with stored | printed
  · rw [stored, parseSQLiteTime_stamp dated]
  · have first : parseInUTC sqliteLayout (stampRFC3339 time) = none := parse_blank_none dated _ _
    have second : parseInUTC sqliteLayoutNano (stampRFC3339 time) = none := parse_blank_none dated _ _
    unfold parseSQLiteTime
    rw [printed, List.findSome?_cons, first, List.findSome?_cons, second, List.findSome?_cons, parse_stampRFC3339 dated]
    rfl

private theorem stamp_le_iff {first second : SqlTime} (dated : Calendar.Dated first) (other : Calendar.Dated second) :
    first ≤ second ↔ collation (stamp first) ≤ collation (stamp second) := by
  rw [← not_lt, ← not_lt, stamp_lt_iff other dated]

/-- The texts put the rows into the same order. -/
theorem oldestFirst_text {db : SpoolDB} (dated : db.Dated) : db.text.oldestFirst = db.oldestFirst.map SpoolRow.text :=
  orderBy_map SpoolRow.text (fun left member right present =>
    stamp_le_iff (dated left member).enqueued (dated right present).enqueued)

section Statements

variable (reader : ColumnReader) (cfg : Config)

private theorem insert_text (db : SpoolDB) (probeRunID payload : GoString) (now : Time) :
    db.text.insert probeRunID payload now = (db.insert probeRunID payload now).map SpoolDB.text := by
  have runs : db.text.rows.map TextRow.probeRunID = db.rows.rows.map SpoolRow.probeRunID := by
    simp [SpoolDB.text, Function.comp_def, SpoolRow.text]
  unfold TextDB.insert SpoolDB.insert
  rw [runs]
  split
  · rfl
  · simp [SpoolDB.text, SpoolRow.text]

private theorem deleteRow_text (db : SpoolDB) (id : Nat) : db.text.deleteRow id = (db.deleteRow id).text := by
  simp only [TextDB.deleteRow, SpoolDB.deleteRow, SpoolDB.text, Table.erase, List.filter_map]
  rfl

private theorem markFailure_text (db : SpoolDB) (id : Nat) (now : Time) (message : GoString) :
    db.text.markFailure id now message = (db.markFailure id now message).text := by
  simp only [TextDB.markFailure, SpoolDB.markFailure, SpoolDB.text, Table.modify, List.map_map]
  refine congrArg (fun rows => (⟨rows, db.seq, db.dropsTotal⟩ : TextDB)) (List.map_congr_left (fun row _ => ?_))
  simp only [Function.comp_apply]
  have same : row.text.id = row.id := rfl
  by_cases named : row.id = id
  · rw [same, if_pos named, if_pos named]
    rfl
  · rw [same, if_neg named, if_neg named]

private theorem applyOutcome_text (db : SpoolDB) (id : Nat) (now : Time) (message : GoString) (outcome : SendOutcome) :
    TextCall.applyOutcome db.text id now message outcome = (SpoolCall.applyOutcome db id now message outcome).text := by
  cases outcome with
  | accepted => exact deleteRow_text db id
  | permanentFail => exact markFailure_text db id now message
  | transientFail => exact markFailure_text db id now message

private theorem limit_text (rows : List SpoolRow) (bound : Int) :
    TextDB.limit (rows.map SpoolRow.text) bound = (SpoolDB.limit rows bound).map SpoolRow.text := by
  unfold TextDB.limit SpoolDB.limit
  split
  · rfl
  · exact List.map_take.symm

private theorem deleteOldest_text {db : SpoolDB} (dated : db.Dated) :
    db.text.deleteOldest = (db.deleteOldest.1.text, db.deleteOldest.2) := by
  unfold TextDB.deleteOldest SpoolDB.deleteOldest
  rw [oldestFirst_text dated, List.head?_map]
  cases db.oldestFirst.head? with
  | none => rfl
  | some row =>
    simp only [Option.map_some]
    exact congrArg (fun after => (after, 1)) (deleteRow_text db row.id)

/-- The texts of the batch. -/
theorem scan_text (row : SpoolRow) : TextCall.scan reader row.text = row.candidate.text reader := by
  simp [TextCall.scan, SpoolRow.text, SpoolRow.candidate, Candidate.text, Function.comp_def]

private theorem waits_text {c : Candidate} (dated : c.Dated) (now : Time) :
    TextCall.waits cfg now (c.text reader) = some (SpoolCall.waits cfg now c) := by
  obtain ⟨id, probeRunID, payload, attempts, lastAttemptAt⟩ := c
  cases lastAttemptAt with
  | none => rfl
  | some last =>
    have read := parseSQLiteTime_read reader (dated last rfl)
    simp [TextCall.waits, Candidate.text, read, SpoolCall.waits]

private theorem nextSend_text {batch : List Candidate} (dated : ∀ c ∈ batch, c.Dated) (now : Time)
    (stats : DrainStats) :
    TextCall.nextSend cfg now stats (batch.map (Candidate.text reader)) =
      (SpoolCall.nextSend cfg now stats batch).text reader := by
  induction batch generalizing stats with
  | nil => rfl
  | cons c rest ih =>
    have later := fun stats => ih (fun other member => dated other (List.mem_cons_of_mem c member)) stats
    rw [List.map_cons, TextCall.nextSend, waits_text reader cfg (dated c List.mem_cons_self), SpoolCall.nextSend]
    cases SpoolCall.waits cfg now c with
    | true => exact later _
    | false => rfl

/-- A candidate has the timestamp of its row. -/
theorem candidates_dated {db : SpoolDB} (dated : db.Dated) {c : Candidate}
    (member : c ∈ (SpoolDB.limit db.oldestFirst cfg.drainRows).map SpoolRow.candidate) : c.Dated := by
  obtain ⟨row, present, rfl⟩ := List.mem_map.mp member
  have stored : row ∈ db.oldestFirst := by
    unfold SpoolDB.limit at present
    split at present
    · exact present
    · exact List.mem_of_mem_take present
  exact (dated row (mem_orderBy.mp stored)).attempted

/-- The statement on the texts does what it does on the seconds. -/
theorem statement_text {db : SpoolDB} {call : SpoolCall} (dated : db.Dated) (inHand : call.Dated) (now : Time) :
    (call.text reader).statement reader cfg db.text now =
      (call.statement cfg db now).map (fun (after, next) => (after.text, next.text reader)) := by
  cases call with
  | insert probeRunID payload =>
    simp only [SpoolCall.text, TextCall.statement, SpoolCall.statement, insert_text]
    cases db.insert probeRunID payload now with
    | none => rfl
    | some after => rfl
  | select =>
    have batch : (TextDB.limit db.text.oldestFirst cfg.drainRows).map (TextCall.scan reader) =
        ((SpoolDB.limit db.oldestFirst cfg.drainRows).map SpoolRow.candidate).map (Candidate.text reader) := by
      rw [oldestFirst_text dated, limit_text, List.map_map, List.map_map]
      exact List.map_congr_left (fun row _ => scan_text reader row)
    simp only [SpoolCall.text, TextCall.statement, SpoolCall.statement, batch, Option.map_some,
      nextSend_text reader cfg (fun c => candidates_dated cfg dated), List.length_map]
  | settle started current outcome message rest stats =>
    simp only [SpoolCall.text, TextCall.statement, SpoolCall.statement, Option.map_some,
      nextSend_text reader cfg inHand.2]
    exact congrArg (fun after => some (after, _)) (applyOutcome_text db current.id now message outcome)
  | oldestAge size stats =>
    have least : db.text.minEnqueuedAt = db.minEnqueuedAt.map stamp := by
      unfold TextDB.minEnqueuedAt SpoolDB.minEnqueuedAt
      rw [oldestFirst_text dated, List.head?_map, Option.map_map, Option.map_map]
      rfl
    simp only [SpoolCall.text, TextCall.statement, SpoolCall.statement, least]
    cases found : db.minEnqueuedAt with
    | none => rfl
    | some oldest =>
      obtain ⟨row, first, same⟩ := Option.map_eq_some_iff.mp found
      have inside : row ∈ db.rows.rows := mem_orderBy.mp (List.mem_of_head? first)
      simp only [Option.map_some, parseSQLiteTime_stamp (same ▸ (dated row inside).enqueued)]
  | depth size age stats =>
    have rows : db.text.rows.length = db.depth := by simp [SpoolDB.text, SpoolDB.depth]
    simp only [SpoolCall.text, TextCall.statement, SpoolCall.statement, rows]
    split
    · rfl
    · rfl
  | deleteOldest stats =>
    simp only [SpoolCall.text, TextCall.statement, SpoolCall.statement, deleteOldest_text dated]
    split
    · rfl
    · rfl
  | bumpDrops stats => rfl
  | sending now current rest stats => rfl
  | footprint stats => rfl
  | enqueued duplicate => rfl
  | drained stats => rfl

end Statements

/-! The years stay at four digits. -/

section Kept

variable {cfg : Config} {db after : SpoolDB} {now : Time}

private theorem dated_nextSend {batch : List Candidate} (dated : ∀ c ∈ batch, c.Dated) (started : Time)
    (stats : DrainStats) :
    (SpoolCall.nextSend cfg started stats batch).Dated := by
  induction batch generalizing stats with
  | nil => trivial
  | cons c rest ih =>
    have others := fun other member => dated other (List.mem_cons_of_mem c member)
    rw [SpoolCall.nextSend]
    split
    · exact ih others _
    · exact ⟨dated c List.mem_cons_self, others⟩

theorem SpoolDB.Dated.deleteRow (dated : db.Dated) (id : Nat) : (db.deleteRow id).Dated :=
  fun row member => dated row (mem_deleteRow.mp member).1

theorem SpoolDB.Dated.applyOutcome (dated : db.Dated) (clock : Calendar.Dated (toSql now)) (id : Nat)
    (message : GoString)
    (outcome : SendOutcome) : (SpoolCall.applyOutcome db id now message outcome).Dated := by
  have marked : (db.markFailure id now message).Dated := by
    intro row member
    rcases mem_markFailure.mp member with ⟨kept, _⟩ | ⟨old, present, _, rfl⟩
    · exact dated row kept
    · refine ⟨(dated old present).enqueued, ?_⟩
      intro last same
      rw [← Option.some.inj same]
      exact clock
  cases outcome with
  | accepted => exact dated.deleteRow id
  | permanentFail => exact marked
  | transientFail => exact marked

theorem SpoolDB.Dated.deleteOldest (dated : db.Dated) : db.deleteOldest.1.Dated := by
  unfold SpoolDB.deleteOldest
  split
  · exact dated
  · exact dated.deleteRow _

theorem SpoolDB.Dated.insert (dated : db.Dated) (clock : Calendar.Dated (toSql now)) {probeRunID payload : GoString}
    (done : db.insert probeRunID payload now = some after) : after.Dated := by
  unfold SpoolDB.insert at done
  split at done
  · cases done
  · cases done
    intro row member
    rcases List.mem_append.mp member with old | new
    · exact dated row old
    · rw [List.mem_singleton.mp new]
      refine ⟨clock, ?_⟩
      intro last same
      cases same

private theorem dated_statement {call next : SpoolCall} (dated : db.Dated) (inHand : call.Dated)
    (clock : Calendar.Dated (toSql now))
    (step : call.statement cfg db now = some (after, next)) : after.Dated ∧ next.Dated := by
  cases call with
  | insert probeRunID payload =>
    simp only [SpoolCall.statement] at step
    split at step
    · cases step
      exact ⟨dated, trivial⟩
    · rename_i inserted
      cases step
      exact ⟨dated.insert clock inserted, trivial⟩
  | select =>
    cases step
    exact ⟨dated, dated_nextSend (fun c => candidates_dated cfg dated) _ _⟩
  | settle started current outcome message rest stats =>
    cases step
    exact ⟨dated.applyOutcome clock _ _ _, dated_nextSend inHand.2 _ _⟩
  | oldestAge size stats =>
    cases step
    exact ⟨dated, trivial⟩
  | depth size age stats =>
    simp only [SpoolCall.statement] at step
    split at step
    · cases step
      exact ⟨dated, trivial⟩
    · cases step
      exact ⟨dated, trivial⟩
  | deleteOldest stats =>
    simp only [SpoolCall.statement] at step
    split at step
    · cases step
      exact ⟨dated.deleteOldest, trivial⟩
    · cases step
      exact ⟨dated.deleteOldest, trivial⟩
  | bumpDrops stats =>
    cases step
    exact ⟨dated, trivial⟩
  | sending started current rest stats => cases step
  | footprint stats => cases step
  | enqueued duplicate => cases step
  | drained stats => cases step

end Kept

/-! Runs. -/

structure SpoolProcess.Dated (process : SpoolProcess) : Prop where
  db : process.db.Dated
  call : ∀ call ∈ process.call, call.Dated

/-- The clock shows a year of four digits. -/
def SpoolEvent.Dated : SpoolEvent → Prop
  | .statement now => Calendar.Dated (toSql now)
  | _ => True

instance : (event : SpoolEvent) → Decidable event.Dated
  | .statement now => inferInstanceAs (Decidable (Calendar.Dated (toSql now)))
  | .enqueue _ _ => isTrue trivial
  | .drain => isTrue trivial
  | .sent _ _ => isTrue trivial
  | .measured _ => isTrue trivial
  | .interrupt => isTrue trivial
  | .reopen => isTrue trivial

section Runs

variable {cfg : Config} {process after : SpoolProcess} {event : SpoolEvent}

private theorem finished_text (reader : ColumnReader) (call : SpoolCall) :
    (call.text reader).finished = call.finished := by
  cases call <;> rfl

private theorem ongoing_text (reader : ColumnReader) (call : SpoolCall) :
    (if (call.text reader).finished then none else some (call.text reader)) =
      (ongoing call).map (SpoolCall.text reader) := by
  rw [finished_text]
  unfold ongoing
  split
  · rfl
  · rfl

private theorem sent_text (reader : ColumnReader) (outcome : SendOutcome) (message : GoString) (call : SpoolCall) :
    (call.text reader).sent outcome message = (call.sent outcome message).map (SpoolCall.text reader) := by
  cases call <;> rfl

private theorem measured_text (reader : ColumnReader) (size : Int) (call : SpoolCall) :
    (call.text reader).measured size = (call.measured size).map (SpoolCall.text reader) := by
  cases call <;> rfl

private theorem textNext_text (reader : ColumnReader) (dated : process.Dated) :
    textNext reader cfg (process.text reader) event = (spoolNext cfg process event).map (SpoolProcess.text reader) := by
  obtain ⟨db, call, enqueued, accepted, unbumped⟩ := process
  cases event with
  | enqueue probeRunID payload =>
    cases call with
    | some call => rfl
    | none =>
      simp only [textNext, spoolNext, SpoolProcess.text, Option.map_none, Option.map_some, Spool.enqueue]
      by_cases unnamed : probeRunID = []
      · simp [unnamed]
      · by_cases empty : payload = []
        · simp [unnamed, empty]
        · simp [unnamed, empty, SpoolCall.text]
  | drain =>
    cases call with
    | some call => rfl
    | none => rfl
  | statement now =>
    cases call with
    | none => rfl
    | some call =>
      simp only [textNext, spoolNext, SpoolProcess.text, Option.map_some, Option.bind_some,
        statement_text reader cfg dated.db (dated.call call rfl), Option.map_map]
      refine congrArg (Option.map · _) (funext (fun stepped => ?_))
      simp only [Function.comp_apply, ongoing_text]
      rfl
  | sent outcome message =>
    cases call with
    | none => rfl
    | some call =>
      simp only [textNext, spoolNext, SpoolProcess.text, Option.map_some, Option.bind_some, sent_text, Option.map_map]
      rfl
  | measured size =>
    cases call with
    | none => rfl
    | some call =>
      simp only [textNext, spoolNext, SpoolProcess.text, Option.map_some, Option.bind_some, measured_text,
        Option.map_map]
      rfl
  | interrupt =>
    cases call with
    | none => rfl
    | some call => rfl
  | reopen =>
    cases call with
    | none => rfl
    | some call => rfl

private theorem dated_sent {call next : SpoolCall} {outcome : SendOutcome} {message : GoString} (dated : call.Dated)
    (step : call.sent outcome message = some next) : next.Dated := by
  cases call with
  | sending now current rest stats =>
    cases step
    exact dated
  | _ => cases step

private theorem dated_measured {call next : SpoolCall} {size : Int} (step : call.measured size = some next) :
    next.Dated := by
  cases call with
  | footprint stats =>
    cases step
    trivial
  | _ => cases step

private theorem dated_enqueue {probeRunID payload : GoString} {call : SpoolCall}
    (begun : Spool.enqueue probeRunID payload = some call) : call.Dated := by
  unfold Spool.enqueue at begun
  split at begun
  · cases begun
  · split at begun
    · cases begun
    · cases begun
      trivial

private theorem dated_ongoing {next call : SpoolCall} (dated : next.Dated) (same : ongoing next = some call) :
    call.Dated := by
  unfold ongoing at same
  split at same
  · cases same
  · cases same
    exact dated

private theorem dated_next (dated : process.Dated) (clock : event.Dated)
    (step : spoolNext cfg process event = some after) :
    after.Dated := by
  cases event with
  | enqueue probeRunID payload =>
    simp only [spoolNext] at step
    split at step
    · cases step
    · cases step
      exact ⟨dated.db, fun call begun => dated_enqueue begun⟩
  | drain =>
    simp only [spoolNext] at step
    split at step
    · cases step
    · cases step
      refine ⟨dated.db, fun call same => ?_⟩
      cases same
      trivial
  | statement now =>
    obtain ⟨call, current, step⟩ := Option.bind_eq_some_iff.mp step
    obtain ⟨⟨db, next⟩, stepped, rfl⟩ := Option.map_eq_some_iff.mp step
    obtain ⟨stored, inHand⟩ := dated_statement dated.db (dated.call call current) clock stepped
    exact ⟨stored, fun call same => dated_ongoing inHand same⟩
  | sent outcome message =>
    obtain ⟨next, taken, rfl⟩ := Option.map_eq_some_iff.mp step
    obtain ⟨call, current, stepped⟩ := Option.bind_eq_some_iff.mp taken
    refine ⟨dated.db, fun other same => ?_⟩
    cases same
    exact dated_sent (dated.call call current) stepped
  | measured size =>
    obtain ⟨next, taken, rfl⟩ := Option.map_eq_some_iff.mp step
    obtain ⟨call, current, stepped⟩ := Option.bind_eq_some_iff.mp taken
    refine ⟨dated.db, fun other same => ?_⟩
    cases same
    exact dated_measured stepped
  | interrupt =>
    obtain ⟨call, current, rfl⟩ := Option.map_eq_some_iff.mp step
    refine ⟨dated.db, fun other same => ?_⟩
    cases same
  | reopen =>
    simp only [spoolNext] at step
    split at step
    · cases step
    · cases step
      exact dated

end Runs

/-- Every run of an agent process on a spool whose timestamps are text is the run of the model
with whole seconds, read as text: no order is different and no timestamp fails to parse, as
long as the clock shows years of four digits. -/
theorem text_columns_run (reader : ColumnReader) (cfg : Config) (events : List SpoolEvent)
    (dated : ∀ event ∈ events, event.Dated) :
    exec (textNext reader cfg) (SpoolProcess.start.text reader) events =
      (exec (spoolNext cfg) .start events).map (SpoolProcess.text reader) := by
  refine exec_map (SpoolProcess.text reader) SpoolProcess.Dated SpoolEvent.Dated ?_ ?_ ?_ dated
  · exact fun process event held _ => textNext_text reader held
  · exact fun before event after held clock step => dated_next held clock step
  · refine ⟨?_, ?_⟩
    · intro row member
      cases member
    · intro call same
      cases same

/-- A driver that hands out the text as it is stored. -/
def plainReader : ColumnReader := ⟨id, fun _ _ => .inl rfl⟩

/-- A run is enqueued and its first send fails, on November 14 of 2023. -/
def failedSend : List SpoolEvent :=
  [.enqueue (lit "r1") (lit "p1"), .statement (1700000000 * second), .drain, .statement (1700000001 * second),
    .sent .transientFail (lit "timeout"), .statement (1700000002 * second)]

set_option maxRecDepth 8000 in
theorem failed_send_text :
    exec (textNext plainReader ⟨10, 86400 * second, 1048576, second, 60 * second⟩) (SpoolProcess.start.text plainReader)
        failedSend =
      (exec (spoolNext ⟨10, 86400 * second, 1048576, second, 60 * second⟩) .start failedSend).map
        (SpoolProcess.text plainReader) ∧
    (exec (textNext plainReader ⟨10, 86400 * second, 1048576, second, 60 * second⟩)
      (SpoolProcess.start.text plainReader)
      failedSend).map (fun process => process.db.rows.map TextRow.lastAttemptAt) =
        some [some (lit "2023-11-14 22:13:22")] := by
  refine ⟨text_columns_run plainReader _ failedSend (by decide), ?_⟩
  decide

end NetLatencyMonitor.Spool
